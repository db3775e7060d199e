import Stockroom.Proofs.Codec
import Stockroom.Proofs.ParameterForms
import Stockroom.Query.Compile

/-!
# The JSON forms of search criteria

Criteria with finite limits are read back from their JSON form as they were. Where the objects of
parameters are respelled, the criteria that are read are the same up to the signs of zeros among the
limits. A limit of zero is unset, so that such criteria lead to the same filters and to the same
errors.
-/

namespace Stockroom

/-- Lists that are related item by item are read to related values if items are. -/
theorem exists_forall₂_of_forall₂ {α β γ δ : Type} {R : α → β → Prop} {read : α → γ → Prop}
    {readOther : β → δ → Prop} {S : γ → δ → Prop}
    (hstep : ∀ item other value, R item other → read item value →
      ∃ found, readOther other found ∧ S value found)
    {items : List α} {others : List β} (h : List.Forall₂ R items others) {values : List γ}
    (hread : List.Forall₂ read items values) :
    ∃ found, List.Forall₂ readOther others found ∧ List.Forall₂ S values found := by
  induction h generalizing values with
  | nil =>
    obtain rfl := List.forall₂_nil_left_iff.mp hread
    exact ⟨[], .nil, .nil⟩
  | @cons item other _ _ hitem _ ih =>
    obtain ⟨value, rest, hvalue, hrest, rfl⟩ := List.forall₂_cons_left_iff.mp hread
    obtain ⟨found, hfound, hsame⟩ := hstep item other value hitem hvalue
    obtain ⟨foundRest, hfoundRest, hsameRest⟩ := ih hrest
    exact ⟨found :: foundRest, .cons hfound hfoundRest, .cons hsame hsameRest⟩

namespace SearchParam

/-! ### Parameters that are the same -/

/-- Equality of parameters up to the sign of a limit that is zero and so unset. -/
structure Same (param other : SearchParam) : Prop where
  field : param.field = other.field
  kind : param.kind = other.kind
  equal : param.equal = other.equal
  lowerLimit : limit? param.lowerLimit = limit? other.lowerLimit
  upperLimit : limit? param.upperLimit = limit? other.upperLimit

variable {param other : SearchParam}

/-- A parameter is the same as itself. -/
theorem Same.refl (param : SearchParam) : param.Same param :=
  ⟨rfl, rfl, rfl, rfl, rfl⟩

/-- Limits that are set alike are both zeros or neither is one. -/
theorem isZero_eq_of_limit?_eq {x y : Double} (h : limit? x = limit? y) : x.isZero = y.isZero := by
  unfold limit? at h
  split_ifs at h with hx hy hy
  · rw [hx, hy]
  · rw [Bool.eq_false_iff.mpr hx, Bool.eq_false_iff.mpr hy]

/-- The same parameters have the same condition or the same fault. -/
theorem Same.condition_eq (h : param.Same other) (index : Nat) :
    param.condition index = other.condition index := by
  have hequal : param.hasEqual = other.hasEqual := by
    rw [hasEqual, hasEqual, h.equal]
  have hlimits : param.hasLimits = other.hasLimits := by
    rw [hasLimits, hasLimits, isZero_eq_of_limit?_eq h.lowerLimit,
      isZero_eq_of_limit?_eq h.upperLimit]
  have htyped : param.typedCondition index = other.typedCondition index := by
    funext type
    cases type with
    | text => simp only [typedCondition, hequal, h.field, h.equal]
    | float =>
      simp only [typedCondition, readFloat, range, hequal, h.field, h.equal, h.lowerLimit,
        h.upperLimit]
    | int =>
      simp only [typedCondition, readInt, range, hequal, h.field, h.equal, h.lowerLimit,
        h.upperLimit]
  simp only [condition, h.kind, h.field, hequal, hlimits, htyped]

/-- Clearing changes no value that is not given for each zero. -/
theorem Member.Clears.eq {member : Member} {value other : member.Value}
    (h : member.Clears value other) (hzero : member.IsZero value → value = member.unset) :
    value = other := by
  rcases h with rfl | ⟨rfl, hvalue⟩
  · rfl
  · exact hzero hvalue

/-- Clearing a zero leaves a limit unset. -/
theorem limit?_eq_of_clears {x y : Double} (h : y = x ∨ y = .zero ∧ x.isZero = true) :
    limit? x = limit? y := by
  rcases h with rfl | ⟨rfl, hzero⟩
  · rfl
  · rw [limit?, if_pos hzero]
    rfl

/-- A parameter whose zeros were cleared is the same. -/
theorem Clears.same (h : param.Clears other) : param.Same other where
  field := (h .field).eq id
  kind := (h .kind).eq id
  equal := (h .equal).eq id
  lowerLimit := limit?_eq_of_clears (h .lowerLimit)
  upperLimit := limit?_eq_of_clears (h .upperLimit)

/-- Whether all zeros among the limits are positive. -/
def HasPositiveZeros (param : SearchParam) : Prop :=
  (param.lowerLimit.isZero = true → param.lowerLimit = .zero) ∧
    (param.upperLimit.isZero = true → param.upperLimit = .zero)

/-- Clearing changes no parameter without negative zeros. -/
theorem Clears.eq (h : param.Clears other) (hzeros : param.HasPositiveZeros) : param = other := by
  refine ext_get fun member => ?_
  cases member with
  | field => exact (h .field).eq id
  | kind => exact (h .kind).eq id
  | equal => exact (h .equal).eq id
  | lowerLimit => exact (h .lowerLimit).eq hzeros.1
  | upperLimit => exact (h .upperLimit).eq hzeros.2

/-! ### Written parameters -/

/-- Whether the limits of a parameter have JSON forms. -/
def IsFinite (param : SearchParam) : Prop :=
  param.lowerLimit.isFinite = true ∧ param.upperLimit.isFinite = true

/-- A limit is read back if it has a JSON form. -/
theorem decodeFloat_ofDouble {x : Double} (h : x.isFinite = true) :
    Json.decodeFloat (.ofDouble x) = .ok x := by
  cases x with
  | finite value => rfl
  | nan => cases h
  | infinite negative => cases h

/-- A parameter is read back from its JSON form. -/
theorem decode_toJson (h : param.IsFinite) : decode param.toJson = .ok param := by
  refine decode_object_eq_ok_iff.mpr fun member => ?_
  cases member with
  | field => exact .value rfl
  | kind => exact .value rfl
  | equal => exact .value rfl
  | lowerLimit => exact .value (decodeFloat_ofDouble h.1)
  | upperLimit => exact .value (decodeFloat_ofDouble h.2)

/-! ### Lists of parameters -/

/-- A list of parameters is read if each of its items is. -/
theorem decodeList_array_eq_ok_iff {items : List Json} {params : List SearchParam} :
    Json.decodeList decode (.array items) = .ok params ↔
      List.Forall₂ (fun item param => decode item = .ok param) items params :=
  mapM_eq_ok_iff

/-- Whether two values are equal or objects of which the second respells the first. -/
inductive Rewritten : Json → Json → Prop
  | same (value : Json) : Rewritten value value
  | object {members others : Entries Json} (h : SpelledAs members others) :
      Rewritten (.object members) (.object others)

/-- The parameter of a value is read from the rewritten value. -/
theorem exists_decode_of_rewritten {value rewritten : Json} (h : Rewritten value rewritten)
    (hread : decode value = .ok param) :
    ∃ other, decode rewritten = .ok other ∧ param.Same other := by
  cases h with
  | same => exact ⟨param, hread, .refl param⟩
  | object hspelled =>
    obtain ⟨other, hother, hclears⟩ := exists_decode_of_spelledAs hspelled hread
    exact ⟨other, hother, hclears.same⟩

/-- Whether two values are equal or arrays of which the second rewrites the items of the first. -/
inductive RewrittenList : Json → Json → Prop
  | same (value : Json) : RewrittenList value value
  | array {items others : List Json} (h : List.Forall₂ Rewritten items others) :
      RewrittenList (.array items) (.array others)

/-- The parameters of a value are read from the rewritten value. -/
theorem exists_decodeList_of_rewritten {value rewritten : Json} {params : List SearchParam}
    (h : RewrittenList value rewritten) (hread : Json.decodeList decode value = .ok params) :
    ∃ others, Json.decodeList decode rewritten = .ok others ∧ List.Forall₂ Same params others := by
  cases h with
  | same => exact ⟨params, hread, List.forall₂_same.mpr fun param _ => .refl param⟩
  | array hitems =>
    have hparams := decodeList_array_eq_ok_iff.mp hread
    have hstep (item other : Json) (param : SearchParam) :
        Rewritten item other → decode item = .ok param →
          ∃ found, decode other = .ok found ∧ param.Same found :=
      exists_decode_of_rewritten
    obtain ⟨others, hothers, hsame⟩ := exists_forall₂_of_forall₂ hstep hitems hparams
    exact ⟨others, decodeList_array_eq_ok_iff.mpr hothers, hsame⟩

end SearchParam

namespace Filter

/-- The same parameters lead to the same filter or the same error. -/
theorem addParams_congr {params others : List SearchParam}
    (h : List.Forall₂ SearchParam.Same params others) (index : Nat) (filter : Filter) :
    filter.addParams index params = filter.addParams index others := by
  induction h generalizing index filter with
  | nil => rfl
  | cons hhead _ ih => simp only [addParams, hhead.condition_eq, hhead.field, ih]

end Filter

namespace Entries

/-! ### Entries that agree -/

variable {α β : Type} {R : α → β → Prop} {entries : Entries α} {others : Entries β}

/-- Whether two lists of entries have the same names and related values under them. -/
def Agree (R : α → β → Prop) (entries : Entries α) (others : Entries β) : Prop :=
  List.Forall₂ (fun left right => left.1 = right.1 ∧ R left.2 right.2) entries others

/-- Related values under one name are found together. -/
theorem Agree.get? (h : Agree R entries others) (name : String) :
    Option.Rel R (entries.get? name) (others.get? name) := by
  induction h with
  | nil => exact .none
  | @cons left right _ _ hhead _ ih =>
    obtain ⟨first, value⟩ := left
    obtain ⟨rfl, hvalue⟩ := hhead
    rw [Entries.get?, Entries.get?]
    split
    case isTrue => exact .some hvalue
    case isFalse => exact ih

/-- Related values are placed in agreement. -/
theorem Agree.place (h : Agree R entries others) (name : String) {value : α} {other : β}
    (hvalue : R value other) : Agree R (entries.place name value) (others.place name other) := by
  induction h with
  | nil => exact .cons ⟨rfl, hvalue⟩ .nil
  | @cons left right _ _ hhead hrest ih =>
    obtain ⟨first, earlier⟩ := left
    obtain ⟨rfl, hearlier⟩ := hhead
    rw [Entries.place, Entries.place]
    split_ifs
    · exact .cons ⟨rfl, hvalue⟩ (.cons ⟨rfl, hearlier⟩ hrest)
    · exact .cons ⟨rfl, hvalue⟩ hrest
    · exact .cons ⟨rfl, hearlier⟩ ih

/-- A name behind all others is placed at the end. -/
theorem place_eq_append {name : String} (h : ∀ entry ∈ entries, entry.1 < name) (value : α) :
    entries.place name value = entries ++ [(name, value)] := by
  induction entries with
  | nil => rfl
  | cons entry rest ih =>
    obtain ⟨hentry, hrest⟩ := List.forall_mem_cons.mp h
    rw [Entries.place, if_neg (Std.not_lt.mpr (Std.le_of_lt hentry)),
      if_neg fun heq => Std.lt_irrefl (heq ▸ hentry), ih hrest]
    rfl

end Entries

namespace SearchCriteria

/-! ### Criteria that are the same -/

variable {criteria other : SearchCriteria}

/-- Whether criteria have the same categories with the same parameters. -/
def Same (criteria other : SearchCriteria) : Prop :=
  Entries.Agree (List.Forall₂ SearchParam.Same) criteria.categories other.categories

/-- Each category of the same criteria has the same filter or the same error. -/
theorem Same.ofCategory_eq (h : criteria.Same other) (category : String) :
    Filter.ofCategory criteria category = Filter.ofCategory other category := by
  have hparams : List.Forall₂ SearchParam.Same (criteria.category category)
      (other.category category) := by
    have hfound := h.get? category
    unfold SearchCriteria.category
    generalize criteria.categories.get? category = params at hfound
    generalize other.categories.get? category = others at hfound
    cases hfound with
    | none => exact .nil
    | some hparams => exact hparams
  exact Filter.addParams_congr hparams 0 .empty

/-- The criteria with the parameters of several categories, inserted one after the other. -/
def insertAll (criteria : SearchCriteria) (entries : Entries (List SearchParam)) :
    SearchCriteria :=
  entries.foldl (fun criteria (category, params) => criteria.insert category params) criteria

/-- The same parameters lead to the same criteria. -/
theorem Same.insertAll (h : criteria.Same other) {entries others : Entries (List SearchParam)}
    (hentries : Entries.Agree (List.Forall₂ SearchParam.Same) entries others) :
    (criteria.insertAll entries).Same (other.insertAll others) := by
  induction hentries generalizing criteria other with
  | nil => exact h
  | @cons left right _ _ hhead _ ih =>
    obtain ⟨name, params⟩ := left
    obtain ⟨rfl, hparams⟩ := hhead
    exact ih (h.place right.1 hparams)

/-- Entries in ascending order are the categories of their criteria. -/
theorem categories_ofEntries {entries : Entries (List SearchParam)}
    (h : Entries.Ascending entries) : (ofEntries entries).categories = entries := by
  induction entries using List.reverseRecOn with
  | nil => rfl
  | append_singleton entries entry ih =>
    obtain ⟨hentries, -, hlast⟩ := List.pairwise_append.mp h
    have hbelow : ∀ earlier ∈ entries, earlier.1 < entry.1 :=
      fun earlier hmem => hlast earlier hmem entry List.mem_cons_self
    rw [ofEntries, List.foldl_append]
    change Entries.place entry.1 entry.2 (ofEntries entries).categories = _
    rw [ih hentries, Entries.place_eq_append hbelow]

/-- Criteria are made of their categories. -/
theorem ofEntries_categories (criteria : SearchCriteria) :
    ofEntries criteria.categories = criteria := by
  have h := categories_ofEntries criteria.ascending
  obtain ⟨categories, ascending⟩ := criteria
  generalize ofEntries categories = found at h
  obtain ⟨found, hfound⟩ := found
  obtain rfl := h
  rfl

/-! ### Criteria that are read -/

/-- Takes up a category of an object. -/
def absorb (criteria : SearchCriteria) (entry : String × Json) : Json.Decoded SearchCriteria :=
  (Json.decodeList SearchParam.decode entry.2).map (criteria.insert entry.1)

/-- An object is read category by category. -/
theorem decode_object (members : Entries Json) :
    decode (.object members) = members.foldlM absorb empty := rfl

/-- Whether lists of parameters are read from the values under their names. -/
def ReadsAs (members : Entries Json) (entries : Entries (List SearchParam)) : Prop :=
  Entries.Agree (fun value params => Json.decodeList SearchParam.decode value = .ok params) members
    entries

/-- The categories of an object that is read are inserted one after the other. -/
theorem foldlM_absorb_eq_ok_iff {start : SearchCriteria} {members : Entries Json} :
    members.foldlM absorb start = .ok criteria ↔
      ∃ entries, ReadsAs members entries ∧ start.insertAll entries = criteria := by
  induction members generalizing start with
  | nil =>
    constructor
    · intro h
      exact ⟨[], .nil, Except.ok.inj h⟩
    · rintro ⟨entries, hreads, rfl⟩
      obtain rfl := List.forall₂_nil_left_iff.mp hreads
      rfl
  | cons entry rest ih =>
    obtain ⟨name, value⟩ := entry
    rw [List.foldlM_cons, absorb]
    constructor
    · intro h
      cases hvalue : Json.decodeList SearchParam.decode value with
      | error cause =>
        rw [hvalue] at h
        cases h
      | ok params =>
        rw [hvalue] at h
        obtain ⟨entries, hreads, hcriteria⟩ := ih.mp h
        exact ⟨(name, params) :: entries, .cons ⟨rfl, hvalue⟩ hreads, hcriteria⟩
    · rintro ⟨entries, hreads, rfl⟩
      obtain ⟨⟨_, params⟩, others, ⟨rfl, hvalue⟩, hothers, rfl⟩ :=
        List.forall₂_cons_left_iff.mp hreads
      rw [hvalue]
      exact ih.mpr ⟨others, hothers, rfl⟩

/-- Criteria are read from the lists of parameters under their categories. -/
theorem decode_object_eq_ok_iff {members : Entries Json} :
    decode (.object members) = .ok criteria ↔
      ∃ entries, ReadsAs members entries ∧ ofEntries entries = criteria := by
  rw [decode_object, foldlM_absorb_eq_ok_iff]
  rfl

/-- Whether the limits of all parameters have JSON forms. -/
def IsFinite (criteria : SearchCriteria) : Prop :=
  ∀ entry ∈ criteria.categories, ∀ param ∈ entry.2, param.IsFinite

/-- Criteria are read back from their JSON form. -/
theorem decode_toJson (h : criteria.IsFinite) : decode criteria.toJson = .ok criteria := by
  refine decode_object_eq_ok_iff.mpr ⟨criteria.categories, ?_, ofEntries_categories criteria⟩
  refine List.forall₂_map_left_iff.mpr (List.forall₂_same.mpr fun entry hentry => ⟨rfl, ?_⟩)
  refine SearchParam.decodeList_array_eq_ok_iff.mpr
    (List.forall₂_map_left_iff.mpr (List.forall₂_same.mpr ?_))
  exact fun param hparam => SearchParam.decode_toJson (h entry hentry param hparam)

/-- Whether two objects have the same categories, the lists under them being rewritten. -/
def Rewritten (members others : Entries Json) : Prop :=
  Entries.Agree SearchParam.RewrittenList members others

/-- The criteria of an object are read from the rewritten object. -/
theorem exists_decode_of_rewritten {members others : Entries Json} (h : Rewritten members others)
    (hread : decode (.object members) = .ok criteria) :
    ∃ other, decode (.object others) = .ok other ∧ criteria.Same other := by
  obtain ⟨entries, hreads, rfl⟩ := decode_object_eq_ok_iff.mp hread
  obtain ⟨found, hfound, hsame⟩ : ∃ found, ReadsAs others found ∧
      Entries.Agree (List.Forall₂ SearchParam.Same) entries found := by
    refine exists_forall₂_of_forall₂ ?_ h hreads
    rintro ⟨name, value⟩ ⟨_, rewritten⟩ ⟨_, params⟩ ⟨rfl, hvalue⟩ ⟨rfl, hparams⟩
    obtain ⟨found, hfound, hsame⟩ := SearchParam.exists_decodeList_of_rewritten hvalue hparams
    exact ⟨(_, found), ⟨rfl, hfound⟩, rfl, hsame⟩
  have hempty : empty.Same empty := .nil
  exact ⟨ofEntries found, decode_object_eq_ok_iff.mpr ⟨found, hfound, rfl⟩,
    hempty.insertAll hsame⟩

/-- Criteria survive their JSON forms in the listed spellings: criteria with finite limits are read
back as they were, a parameter is read from every respelling of its object up to the sign of a limit
that is zero, so that categories have the same filters and errors, and a member that is given twice
is a duplicate. -/
theorem forms_readBack :
    (∀ name, ∀ member : SearchParam.Member, name ∈ member.spellings ↔ (name, member) ∈
      [("field", .field), ("Field", .field), ("type", .kind), ("Type", .kind), ("equal", .equal),
        ("Equal", .equal), ("lower_limit", .lowerLimit), ("LowerLimit", .lowerLimit),
        ("lowerlimit", .lowerLimit), ("upper_limit", .upperLimit), ("UpperLimit", .upperLimit),
        ("upperlimit", SearchParam.Member.upperLimit)]) ∧
    (∀ criteria : SearchCriteria, criteria.IsFinite →
      decode criteria.toJson = .ok criteria ∧
        ∀ category, (decode criteria.toJson).map (Filter.ofCategory · category) =
          .ok (Filter.ofCategory criteria category)) ∧
    (∀ members others param, SearchParam.decode (.object members) = .ok param →
      SearchParam.SpelledAs members others →
        ∃ other, SearchParam.decode (.object others) = .ok other ∧ param.Same other ∧
          (param.HasPositiveZeros → param = other)) ∧
    (∀ members others criteria, decode (.object members) = .ok criteria →
      Rewritten members others →
        ∃ other, decode (.object others) = .ok other ∧ criteria.Same other ∧
          ∀ category, Filter.ofCategory criteria category = Filter.ofCategory other category) ∧
    (∀ members, ∀ member : SearchParam.Member, 2 ≤ (member.given members).length →
      (∀ param, SearchParam.decode (.object members) ≠ .ok param) ∧
        (SearchParam.Accepted members →
          ∃ twice : SearchParam.Member, 2 ≤ (twice.given members).length ∧
            SearchParam.decode (.object members) = .error (.duplicateField twice.name))) := by
  refine ⟨fun name member => ?_, fun criteria hfinite => ?_,
    fun members others param hread hspelled => ?_,
    fun members others criteria hread hrewritten => ?_, fun members member htwice => ?_⟩
  · cases member <;> simp [SearchParam.Member.spellings]
  · have hback := decode_toJson hfinite
    exact ⟨hback, fun category => congrArg _ hback⟩
  · obtain ⟨other, hother, hclears⟩ := SearchParam.exists_decode_of_spelledAs hspelled hread
    exact ⟨other, hother, hclears.same, hclears.eq⟩
  · obtain ⟨other, hother, hsame⟩ := exists_decode_of_rewritten hrewritten hread
    exact ⟨other, hother, hsame, hsame.ofCategory_eq⟩
  · exact ⟨SearchParam.decode_ne_ok_of_given_twice htwice, fun haccepted =>
      SearchParam.exists_decode_eq_duplicate haccepted htwice⟩

/-! ### A range of weights -/

/-- Weights above five. -/
def weightRange : SearchParam :=
  ⟨"total_weight", "float", "", Double.ofInt 5, .zero⟩

/-- The range with all its members. -/
def weightMembers : Entries Json :=
  [("field", .string "total_weight"), ("type", .string "float"), ("equal", .string ""),
    ("lower_limit", .ofInt64 5), ("upper_limit", .ofInt64 0)]

/-- The range in other spellings, what is unset being left out. -/
def weightRespelled : Entries Json :=
  [("note", .null), ("lowerlimit", .ofInt64 5), ("Type", .string "float"),
    ("Field", .string "total_weight")]

theorem decode_weightMembers : SearchParam.decode (.object weightMembers) = .ok weightRange := by
  refine SearchParam.decode_object_eq_ok_iff.mpr fun member => ?_
  cases member with
  | field => exact .value rfl
  | kind => exact .value rfl
  | equal => exact .value rfl
  | lowerLimit => exact .value (by decide +kernel)
  | upperLimit => exact .value (by decide +kernel)

/-- The zero and the empty text go first, then the names change, then the order. -/
theorem spelledAs_weightRespelled : SearchParam.SpelledAs weightMembers weightRespelled := by
  have hequal : SearchParam.Unset (.string "") := rfl
  have hupper : SearchParam.Unset (.ofInt64 0) := by
    change Double.isZero _ = true
    decide +kernel
  refine .head (@SearchParam.Respelled.dropUnset (weightMembers.take 4) [] _ _ hupper) ?_
  refine .head (@SearchParam.Respelled.dropUnset (weightMembers.take 2) _ _ _ hequal) ?_
  refine .head (@SearchParam.Respelled.rename [] _ .field _ "Field" _ (by decide) (by decide)) ?_
  refine .head (@SearchParam.Respelled.rename [_] _ .kind _ "Type" _ (by decide) (by decide)) ?_
  refine .head (@SearchParam.Respelled.rename [_, _] [] .lowerLimit _ "lowerlimit" _ (by decide)
    (by decide)) ?_
  refine .head (.reorder (List.reverse_perm _).symm) ?_
  refine .single (@SearchParam.Respelled.addUnknown [] _ "note" .null ?_)
  intro member
  cases member <;> decide

/-- The members are accepted together with an empty text under another spelling. -/
theorem accepted_cons_weightMembers :
    SearchParam.Accepted (("Equal", .string "") :: weightMembers) := by
  intro member value hvalue
  cases member with
  | equal =>
    obtain rfl | hvalue := List.mem_cons.mp hvalue
    · exact ⟨"", rfl⟩
    · obtain rfl := List.mem_singleton.mp hvalue
      exact ⟨"", rfl⟩
  | _ =>
    obtain rfl := List.mem_singleton.mp hvalue
    exact ⟨_, rfl⟩

/-- The range is read back, read from its other spellings, and refused with a text under both
spellings. -/
theorem forms_readBack_weightRange :
    let criteria := ofEntries [("inventory", [weightRange])]
    decode criteria.toJson = .ok criteria ∧
      (∃ other, SearchParam.decode (.object weightRespelled) = .ok other ∧
        weightRange.Same other) ∧
      (∃ other, decode (.object [("inventory", .array [.object weightRespelled])]) = .ok other ∧
        criteria.Same other) ∧
      ∃ twice : SearchParam.Member,
        SearchParam.decode (.object (("Equal", .string "") :: weightMembers)) =
          .error (.duplicateField twice.name) := by
  intro criteria
  obtain ⟨-, hback, hrespelled, hrewritten, htwice⟩ := forms_readBack
  have hfinite : criteria.IsFinite := by
    intro entry hentry param hparam
    obtain rfl := List.mem_singleton.mp hentry
    obtain rfl := List.mem_singleton.mp hparam
    exact ⟨by decide +kernel, by decide +kernel⟩
  have hread : decode (.object [("inventory", .array [.object weightMembers])]) =
      .ok criteria := by
    refine decode_object_eq_ok_iff.mpr ⟨[("inventory", [weightRange])], .cons ⟨rfl, ?_⟩ .nil, rfl⟩
    exact SearchParam.decodeList_array_eq_ok_iff.mpr (.cons decode_weightMembers .nil)
  obtain ⟨param, hparam, hsame, -⟩ :=
    hrespelled _ _ _ decode_weightMembers spelledAs_weightRespelled
  have hlists : Rewritten [("inventory", .array [.object weightMembers])]
      [("inventory", .array [.object weightRespelled])] :=
    .cons ⟨rfl, .array (.cons (.object spelledAs_weightRespelled) .nil)⟩ .nil
  obtain ⟨found, hfound, hfoundSame, -⟩ := hrewritten _ _ _ hread hlists
  have hequal : 2 ≤
      (SearchParam.Member.equal.given (("Equal", .string "") :: weightMembers)).length := by
    decide
  obtain ⟨twice, -, herror⟩ := (htwice _ _ hequal).2 accepted_cons_weightMembers
  exact ⟨(hback criteria hfinite).1, ⟨param, hparam, hsame⟩, ⟨found, hfound, hfoundSame⟩,
    twice, herror⟩

end SearchCriteria

end Stockroom
