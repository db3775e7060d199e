import Stockroom.Json.Decode

/-!
# Search parameters

A search parameter asks that a field, compared as some type, equals a text or lies between two
limits. Every member may be missing and a limit of zero is unset, so that the compiler of filters,
and not the reader of requests, says what is wrong.
-/

namespace Stockroom

/-- How the values of a parameter are compared. -/
inductive ParamType
  | text
  | float
  | int
  deriving DecidableEq

namespace ParamType

/-- The name of a type in a request. -/
def name : ParamType → String
  | text => "string"
  | float => "float"
  | int => "int"

/-- The type with a name. -/
def ofName? (name : String) : Option ParamType :=
  [text, float, int].find? fun type => type.name == name

end ParamType

/-- A request for one clause of a filter. -/
structure SearchParam where
  field : String := ""
  kind : String := ""
  equal : String := ""
  lowerLimit : Double := Double.zero
  upperLimit : Double := Double.zero
  deriving DecidableEq

namespace SearchParam

/-- Whether a text to be equal to is given. -/
def hasEqual (param : SearchParam) : Bool :=
  param.equal != ""

/-- Whether a limit is set. -/
def hasLimits (param : SearchParam) : Bool :=
  !param.lowerLimit.isZero || !param.upperLimit.isZero

/-- The members of the JSON form. -/
inductive Member
  | field
  | kind
  | equal
  | lowerLimit
  | upperLimit
  deriving DecidableEq

/-- The spellings of a member. The first one is written, all are read. -/
def Member.spellings : Member → List String
  | field => ["field", "Field"]
  | kind => ["type", "Type"]
  | equal => ["equal", "Equal"]
  | lowerLimit => ["lower_limit", "LowerLimit", "lowerlimit"]
  | upperLimit => ["upper_limit", "UpperLimit", "upperlimit"]

/-- The members that a request has given so far. -/
structure Draft where
  field : Option String := none
  kind : Option String := none
  equal : Option String := none
  lowerLimit : Option Double := none
  upperLimit : Option Double := none

/-- Takes up a member of the JSON form. -/
def Draft.absorb (draft : Draft) (member : Member) (value : Json) : Json.Decoded Draft :=
  match member with
  | .field => do
    return { draft with field := ← Json.fill "field" draft.field Json.decodeText value }
  | .kind => do
    return { draft with kind := ← Json.fill "type" draft.kind Json.decodeText value }
  | .equal => do
    return { draft with equal := ← Json.fill "equal" draft.equal Json.decodeText value }
  | .lowerLimit => do
    return { draft with
      lowerLimit := ← Json.fill "lower_limit" draft.lowerLimit Json.decodeFloat value }
  | .upperLimit => do
    return { draft with
      upperLimit := ← Json.fill "upper_limit" draft.upperLimit Json.decodeFloat value }

/-- The parameter of a draft, members that were not given being empty. -/
def ofDraft (draft : Draft) : SearchParam where
  field := draft.field.getD ""
  kind := draft.kind.getD ""
  equal := draft.equal.getD ""
  lowerLimit := draft.lowerLimit.getD Double.zero
  upperLimit := draft.upperLimit.getD Double.zero

/-- The JSON form of parameters. -/
def form : Json.RecordForm Member Draft where
  name := "SearchParam"
  members := [.field, .kind, .equal, .lowerLimit, .upperLimit]
  spellings := Member.spellings
  absorb := Draft.absorb

/-- Reads a parameter. -/
def decode (value : Json) : Json.Decoded SearchParam :=
  (form.decode {} value).map ofDraft

/-- Writes a parameter with all its members. -/
def toJson (param : SearchParam) : Json :=
  .object [("field", .string param.field), ("type", .string param.kind),
    ("equal", .string param.equal), ("lower_limit", .ofDouble param.lowerLimit),
    ("upper_limit", .ofDouble param.upperLimit)]

end SearchParam

end Stockroom
