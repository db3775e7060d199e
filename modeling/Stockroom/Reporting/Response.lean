import Stockroom.Entity.Json
import Stockroom.Reporting.Service

/-!
# Combined reports

A combined report is inventory together with the metrics or the devices joined to it. The side that
was not asked for is absent, which is not the same as empty.
-/

namespace Stockroom

/-- Inventory with the records joined to it. -/
structure ReportResponse where
  inventory : List Inventory := []
  metric : Option (List Metric) := none
  device : Option (List Device) := none
  deriving DecidableEq

namespace ReportService

/-- The inventory that satisfies criteria, with its metrics. -/
def metricReport (service : ReportService) (criteria : SearchCriteria) (options : CallOptions) :
    Reporting ReportResponse := do
  let inventory ← service.searchInventory criteria options
  let metric ← service.searchMetrics inventory options
  return { inventory, metric := some metric }

/-- The inventory that satisfies criteria, with its devices. -/
def deviceReport (service : ReportService) (criteria : SearchCriteria) (options : CallOptions) :
    Reporting ReportResponse := do
  let inventory ← service.searchInventory criteria options
  let device ← service.searchDevices inventory options
  return { inventory, device := some device }

end ReportService

namespace ReportResponse

/-- The members of the JSON form. -/
inductive Member
  | inventory
  | metric
  | device
  deriving DecidableEq

/-- The spellings of a member. The first one is written, all are read. -/
def Member.spellings : Member → List String
  | inventory => ["inventory", "Inventory"]
  | metric => ["metric", "Metric"]
  | device => ["device", "Device"]

/-- The members that a response has given so far. -/
structure Draft where
  inventory : Option (List Inventory) := none
  metric : Option (Option (List Metric)) := none
  device : Option (Option (List Device)) := none

/-- Takes up a member of the JSON form. -/
def Draft.absorb (draft : Draft) (member : Member) (value : Json) : Json.Decoded Draft :=
  match member with
  | .inventory => do
    let decodeItems := Json.decodeList Entity.decode
    return { draft with inventory := ← Json.fill "inventory" draft.inventory decodeItems value }
  | .metric => do
    let decodeItems := Json.decodeOption (Json.decodeList Entity.decode)
    return { draft with metric := ← Json.fill "metric" draft.metric decodeItems value }
  | .device => do
    let decodeItems := Json.decodeOption (Json.decodeList Entity.decode)
    return { draft with device := ← Json.fill "device" draft.device decodeItems value }

/-- The JSON form of responses. -/
def form : Json.RecordForm Member Draft where
  name := "ReportResponse"
  members := [.inventory, .metric, .device]
  spellings := Member.spellings
  absorb := Draft.absorb

/-- The response of a draft, members that were not given being empty. -/
def ofDraft (draft : Draft) : ReportResponse :=
  ⟨draft.inventory.getD [], draft.metric.getD none, draft.device.getD none⟩

/-- Reads a response. -/
def decode (value : Json) : Json.Decoded ReportResponse :=
  (form.decode {} value).map ofDraft

/-- The entities of one side. -/
def sideToJson {α : Type} [Entity α] (entities : List α) : Json :=
  .array (entities.map Entity.toJson)

/-- A side that may be absent. -/
def optionalSideToJson {α : Type} [Entity α] (side : Option (List α)) : Json :=
  (side.map sideToJson).getD .null

/-- Writes a response with all its members, an absent side as `null`. -/
def toJson (response : ReportResponse) : Json :=
  .object [("inventory", sideToJson response.inventory),
    ("metric", optionalSideToJson response.metric), ("device", optionalSideToJson response.device)]

end ReportResponse

end Stockroom
