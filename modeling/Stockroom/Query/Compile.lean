import Stockroom.Event
import Stockroom.Query.FieldValue
import Stockroom.Query.Filter
import Stockroom.Query.SearchCriteria
import Stockroom.Text.Blank

/-!
# Compiling search requests

Parameters are checked in their order, and the first one at fault refuses the request. The checks of
one parameter run from its type over its field and its bounds to its values. A parameter of an
unknown type is passed over, and a later parameter on a field takes the place of an earlier one.
-/

namespace Stockroom

/-- Why a text is not a finite number. -/
inductive FloatRefusal
  | unreadable (reason : Text.NumberError)
  | notFinite
  deriving DecidableEq

/-- The wording of a refusal. -/
def FloatRefusal.message : FloatRefusal → String
  | unreadable reason => reason.message
  | notFinite => "not a finite number"

/-- Why a search request is refused. The index is that of the parameter at fault in its list. -/
inductive ValidationError
  | missingType (index : Nat)
  | missingField (index : Nat)
  | missingBound (index : Nat) (field : String)
  | conflictingBounds (index : Nat) (field : String)
  | textRange (index : Nat) (field : String)
  | badFloat (index : Nat) (field value : String) (reason : FloatRefusal)
  | badInt (index : Nat) (field value : String) (reason : Text.IntegerError)
  | unsupportedValue (index : Nat) (field : String) (found : Json)
  deriving DecidableEq

namespace ValidationError

/-- The place of the parameter at fault. -/
def index : ValidationError → Nat
  | missingType index => index
  | missingField index => index
  | missingBound index _ => index
  | conflictingBounds index _ => index
  | textRange index _ => index
  | badFloat index _ _ _ => index
  | badInt index _ _ _ => index
  | unsupportedValue index _ _ => index

/-- The wording of an error. -/
def message : ValidationError → String
  | missingType index => s!"search parameter #{index}: type is required"
  | missingField index => s!"search parameter #{index}: field is required"
  | missingBound index field =>
    s!"search parameter #{index} ({field}): one of equal, lower_limit or upper_limit is required"
  | conflictingBounds index field =>
    s!"search parameter #{index} ({field}): equal cannot be combined with lower_limit/upper_limit"
  | textRange index field =>
    s!"search parameter #{index} ({field}): string parameters only support equal"
  | badFloat index field value reason =>
    let shown := Text.quoted value
    s!"search parameter #{index} ({field}): cannot parse {shown} as float: {reason.message}"
  | badInt index field value reason =>
    let shown := Text.quoted value
    s!"search parameter #{index} ({field}): cannot parse {shown} as int: {reason.message}"
  | unsupportedValue index field found =>
    s!"search pair #{index} ({field}): value must be text or a number, found {found.describe}"

end ValidationError

namespace SearchParam

/-- A limit that is set. -/
def limit? (limit : Double) : Option Double :=
  if limit.isZero then none else some limit

/-- The finite number that the parameter asks for. -/
def readFloat (param : SearchParam) : Except FloatRefusal Double :=
  match Text.readDouble (Text.trim param.equal) with
  | .error reason => .error (.unreadable reason)
  | .ok value => if value.isFinite then .ok value else .error .notFinite

/-- The signed word that the parameter asks for. -/
def readInt (param : SearchParam) : Except Text.IntegerError Int64 :=
  Text.readInt64 (Text.trim param.equal)

/-- The open range between the limits that are set. -/
def range (param : SearchParam) (literal : Double → Literal) : Condition :=
  .range ⟨(limit? param.lowerLimit).map literal, (limit? param.upperLimit).map literal⟩

/-- The condition of a parameter of a known type whose bounds do not conflict. -/
def typedCondition (param : SearchParam) (index : Nat) :
    ParamType → Except ValidationError Condition
  | .text =>
    if param.hasEqual then .ok (.eq (.text param.equal))
    else .error (.textRange index param.field)
  | .float =>
    if param.hasEqual then
      match param.readFloat with
      | .ok value => .ok (.eq (.float value))
      | .error reason => .error (.badFloat index param.field param.equal reason)
    else .ok (param.range .float)
  | .int =>
    if param.hasEqual then
      match param.readInt with
      | .ok value => .ok (.eq (.int value))
      | .error reason => .error (.badInt index param.field param.equal reason)
    else .ok (param.range fun limit => .int limit.clampInt64)

/-- The condition of a parameter, nothing for an unknown type. -/
def condition (param : SearchParam) (index : Nat) : Except ValidationError (Option Condition) :=
  if param.kind = "" then .error (.missingType index)
  else if param.field = "" then .error (.missingField index)
  else if !param.hasEqual && !param.hasLimits then .error (.missingBound index param.field)
  else if param.hasEqual && param.hasLimits then .error (.conflictingBounds index param.field)
  else
    match ParamType.ofName? param.kind with
    | none => .ok none
    | some type => (param.typedCondition index type).map some

end SearchParam

namespace Filter

/-- Adds the conditions of parameters, the first of which has the given index. -/
def addParams : (index : Nat) → Filter → List SearchParam → Except ValidationError Filter
  | _, filter, [] => .ok filter
  | index, filter, param :: rest =>
    match param.condition index with
    | .error e => .error e
    | .ok none => addParams (index + 1) filter rest
    | .ok (some condition) => addParams (index + 1) (filter.insert param.field condition) rest

/-- The filter of a list of parameters. -/
def ofParams (params : List SearchParam) : Except ValidationError Filter :=
  empty.addParams 0 params

/-- The filter of one category of criteria. -/
def ofCategory (criteria : SearchCriteria) (category : String) : Except ValidationError Filter :=
  ofParams (criteria.category category)

/-- The filter of an inventory search. -/
def ofCriteria (criteria : SearchCriteria) : Except ValidationError Filter :=
  ofCategory criteria SearchCriteria.inventoryCategory

/-- The last usable pair with its place in the list. -/
def lastUsable? (pairs : List FieldValue) : Option (FieldValue × Nat) :=
  pairs.zipIdx.findRev? fun (pair, _) => pair.isUsable

/-- The filter of a field and value search: one equality for the last usable pair, and no filter
without such a pair. -/
def ofFieldValues (pairs : List FieldValue) : Except ValidationError (Option Filter) :=
  match lastUsable? pairs with
  | none => .ok none
  | some (pair, index) =>
    match Literal.ofJson? pair.value with
    | some literal => .ok (some (eq pair.field literal))
    | none => .error (.unsupportedValue index pair.field pair.value)

/-! ### Events of a compilation -/

/-- What is noticed while parameters are added, up to the first one at fault. -/
def addParamsEvents : (index : Nat) → Filter → List SearchParam → List Event
  | _, _, [] => []
  | index, filter, param :: rest =>
    match param.condition index with
    | .error _ => []
    | .ok none =>
      ⟨.warn, "ignoring search parameter of unknown type",
        [("index", toString index), ("field", param.field), ("kind", param.kind)]⟩ ::
        addParamsEvents (index + 1) filter rest
    | .ok (some condition) =>
      ((filter.get? param.field).map fun previous =>
        ⟨.debug, "search parameter replaces earlier clause", [("index", toString index),
          ("field", param.field), ("previous", previous.debugText)]⟩).toList ++
        addParamsEvents (index + 1) (filter.insert param.field condition) rest

/-- What is noticed while a list of parameters is compiled. -/
def ofParamsEvents (params : List SearchParam) : List Event :=
  empty.addParamsEvents 0 params

/-- What is noticed while a category is compiled. -/
def ofCategoryEvents (criteria : SearchCriteria) (category : String) : List Event :=
  ofParamsEvents (criteria.category category) ++
    match ofCategory criteria category with
    | .error _ => []
    | .ok filter =>
      [⟨.debug, "compiled search filter", [("category", category),
        ("clauses", toString filter.clauses.length), ("filter", filter.text)]⟩]

/-- What is noticed while pairs are compiled. -/
def ofFieldValuesEvents (pairs : List FieldValue) : List Event :=
  match lastUsable? pairs with
  | none => []
  | some (pair, index) =>
    if pairs.length ≤ 1 then []
    else
      [⟨.debug, "field/value search keeps the last usable pair", [("index", toString index),
        ("pairs", toString pairs.length), ("field", pair.field)]⟩]

end Filter

end Stockroom
