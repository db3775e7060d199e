import Stockroom.Json.Decode

/-!
# Collections of the reporting service

Each kind of entity has a collection of its own.
-/

namespace Stockroom

/-- The names of the collections. -/
structure Collections where
  inventory : String := "inventory"
  metric : String := "metric"
  device : String := "device"
  report : String := "report"
  deriving DecidableEq

namespace Collections

/-- All names in the order of their declaration. -/
def all (collections : Collections) : List String :=
  [collections.inventory, collections.metric, collections.device, collections.report]

/-- The members of the JSON form. -/
inductive Member
  | inventory
  | metric
  | device
  | report
  deriving DecidableEq

/-- The name of a member. -/
def Member.name : Member → String
  | inventory => "inventory"
  | metric => "metric"
  | device => "device"
  | report => "report"

/-- The members that a request has given so far. -/
structure Draft where
  inventory : Option String := none
  metric : Option String := none
  device : Option String := none
  report : Option String := none

/-- Takes up a member of the JSON form. -/
def Draft.absorb (draft : Draft) (member : Member) (value : Json) : Json.Decoded Draft :=
  match member with
  | .inventory => do
    return { draft with
      inventory := ← Json.fill "inventory" draft.inventory Json.decodeText value }
  | .metric => do
    return { draft with metric := ← Json.fill "metric" draft.metric Json.decodeText value }
  | .device => do
    return { draft with device := ← Json.fill "device" draft.device Json.decodeText value }
  | .report => do
    return { draft with report := ← Json.fill "report" draft.report Json.decodeText value }

/-- The JSON form of the names. -/
def form : Json.RecordForm Member Draft where
  name := "Collections"
  members := [.inventory, .metric, .device, .report]
  spellings member := [member.name]
  absorb := Draft.absorb

/-- A member that has to be given. -/
def require (member : Member) (slot : Option String) : Json.Decoded String :=
  match slot with
  | some name => .ok name
  | none => .error (.missingField member.name)

/-- The names of a draft, all of which have to be given. -/
def ofDraft (draft : Draft) : Json.Decoded Collections := do
  return {
    inventory := ← require .inventory draft.inventory
    metric := ← require .metric draft.metric
    device := ← require .device draft.device
    report := ← require .report draft.report }

/-- Reads the names; an array that is too short is refused for its length. -/
def decode (value : Json) : Json.Decoded Collections := do
  let draft ← form.decode {} value
  match value with
  | .array items =>
    if items.length < form.members.length then
      throw (.tooFewItems items.length form.members.length form.name)
    else ofDraft draft
  | _ => ofDraft draft

/-- Writes the names. -/
def toJson (collections : Collections) : Json :=
  .object [("inventory", .string collections.inventory), ("metric", .string collections.metric),
    ("device", .string collections.device), ("report", .string collections.report)]

end Collections

end Stockroom
