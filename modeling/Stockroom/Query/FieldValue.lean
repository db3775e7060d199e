import Stockroom.Json.Decode

/-!
# Field and value pairs

A pair asks that a field equals a value, which is compared as it is. Pairs come in lists of which
only the last usable one counts.
-/

namespace Stockroom

/-- A request for equality of one field with a value. -/
structure FieldValue where
  field : String := ""
  value : Json := .null
  deriving DecidableEq

namespace FieldValue

/-- Whether both members are set; `null` and the empty text count as unset. -/
def isUsable (pair : FieldValue) : Bool :=
  pair.field != "" && pair.value != .null && pair.value != .string ""

/-- The members of the JSON form. -/
inductive Member
  | field
  | value
  deriving DecidableEq

/-- The spellings of a member. The first one is written, all are read. -/
def Member.spellings : Member → List String
  | field => ["search_field", "SearchField"]
  | value => ["search_val", "SearchVal"]

/-- The members that a request has given so far. -/
structure Draft where
  field : Option String := none
  value : Option Json := none

/-- Takes up a member of the JSON form. -/
def Draft.absorb (draft : Draft) (member : Member) (value : Json) : Json.Decoded Draft :=
  match member with
  | .field => do
    return { draft with field := ← Json.fill "search_field" draft.field Json.decodeText value }
  | .value => do return { draft with value := ← Json.fill "search_val" draft.value .ok value }

/-- The pair of a draft, members that were not given being unset. -/
def ofDraft (draft : Draft) : FieldValue :=
  ⟨draft.field.getD "", draft.value.getD .null⟩

/-- The JSON form of pairs. -/
def form : Json.RecordForm Member Draft where
  name := "SearchByFieldValue"
  members := [.field, .value]
  spellings := Member.spellings
  absorb := Draft.absorb

/-- Reads a pair. -/
def decode (value : Json) : Json.Decoded FieldValue :=
  (form.decode {} value).map ofDraft

/-- Writes a pair. -/
def toJson (pair : FieldValue) : Json :=
  .object [("search_field", .string pair.field), ("search_val", pair.value)]

end FieldValue

end Stockroom
