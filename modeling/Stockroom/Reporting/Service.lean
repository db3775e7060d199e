import Stockroom.Entity.Device
import Stockroom.Entity.Inventory
import Stockroom.Entity.Metric
import Stockroom.Entity.ProductWeights
import Stockroom.Entity.Report
import Stockroom.Reporting.Error
import Stockroom.Reporting.Settings

/-!
# The reporting service

The service searches the inventory, joins metrics and devices to what it finds, looks documents up
by a field, sums weights and takes in new records. It is a choice of collections and of a join; the
store is whatever answers the sessions.
-/

namespace Stockroom

/-- The choices of a reporting service. -/
structure ReportService where
  collections : Collections := {}
  join : ForeignKeyJoin := .allRecords
  deriving DecidableEq

namespace ReportService

/-- The service of settings. -/
def ofSettings (settings : Settings) : ReportService :=
  ⟨settings.collections, settings.join⟩

/-! ### Searches -/

/-- The entities of a collection that satisfy a filter, at least one. -/
def findEntities (α : Type) [Entity α] (operation : Operation) (collection : String)
    (filter : Filter) (options : CallOptions) : Reporting (List α) := do
  let docs ← Reporting.request operation (.find collection filter options)
  let entities ← Reporting.decodeAll docs
  Reporting.nonEmpty operation entities

/-- The inventory that satisfies criteria. The criteria are checked before the store is asked. -/
def searchInventory (service : ReportService) (criteria : SearchCriteria) (options : CallOptions) :
    Reporting (List Inventory) := do
  let filter ← Reporting.ofExcept ((Filter.ofCriteria criteria).mapError .validation)
  findEntities Inventory .searchInventory service.collections.inventory filter options

/-- The filter for the metrics of inventory. -/
def metricFilter (service : ReportService) (inventory : List Inventory) : Filter :=
  service.join.filter Metric.itemIdField.name (inventory.map Inventory.itemId)

/-- The filter for the devices of inventory. -/
def deviceFilter (service : ReportService) (inventory : List Inventory) : Filter :=
  service.join.filter Device.deviceIdField.name (inventory.map Inventory.deviceId)

/-- The metrics of inventory. -/
def searchMetrics (service : ReportService) (inventory : List Inventory) (options : CallOptions) :
    Reporting (List Metric) :=
  findEntities Metric .searchMetrics service.collections.metric (service.metricFilter inventory)
    options

/-- The devices of inventory. -/
def searchDevices (service : ReportService) (inventory : List Inventory) (options : CallOptions) :
    Reporting (List Device) :=
  findEntities Device .searchDevices service.collections.device (service.deviceFilter inventory)
    options

/-- The documents of any collection that hold a value under a field. Without a usable pair the
store is not asked and there are no results. -/
def searchByFieldValue (collection : String) (pairs : List FieldValue) (options : CallOptions) :
    Reporting (List Document) := do
  match ← Reporting.ofExcept ((Filter.ofFieldValues pairs).mapError .validation) with
  | none => throw (.noResults .searchByFieldValue)
  | some filter =>
    let docs ← Reporting.request .searchByFieldValue (.find collection filter options)
    Reporting.nonEmpty .searchByFieldValue docs

/-! ### Weights -/

/-- The pipeline that sums the weights of each product. -/
def weightPipeline : Pipeline :=
  let sumOf (field : Field) : SumField := ⟨field.name, field.name⟩
  ⟨[⟨Inventory.nameField.name, [sumOf Inventory.totalWeightField, sumOf Inventory.wasteWeightField,
    sumOf Inventory.soldWeightField]⟩]⟩

/-- The weights of each product over the whole inventory. -/
def weightDistribution (service : ReportService) (options : CallOptions) :
    Reporting (List ProductWeights) := do
  let rows ← Reporting.request .weightDistribution
    (.aggregate service.collections.inventory weightPipeline options)
  Reporting.ofExcept ((rows.mapM ProductWeights.ofGroup).mapError .codec)

/-! ### Ingest -/

/-- Inserts a batch of entities; an empty batch does not reach the store. -/
def insertEntities {α : Type} [Entity α] (operation : Operation) (collection : String)
    (entities : List α) (options : CallOptions) : Reporting (List DocumentKey) :=
  if entities.isEmpty then pure []
  else Reporting.request operation (.insertMany collection (Entity.toDocuments entities) options)

/-- Inserts inventory. -/
def insertInventory (service : ReportService) (items : List Inventory) (options : CallOptions) :
    Reporting (List DocumentKey) :=
  insertEntities .insertInventory service.collections.inventory items options

/-- Inserts metrics. -/
def insertMetrics (service : ReportService) (metrics : List Metric) (options : CallOptions) :
    Reporting (List DocumentKey) :=
  insertEntities .insertMetrics service.collections.metric metrics options

/-- Inserts devices. -/
def insertDevices (service : ReportService) (devices : List Device) (options : CallOptions) :
    Reporting (List DocumentKey) :=
  insertEntities .insertDevices service.collections.device devices options

/-- Inserts reports. -/
def insertReports (service : ReportService) (reports : List Report) (options : CallOptions) :
    Reporting (List DocumentKey) :=
  insertEntities .insertReports service.collections.report reports options

end ReportService

end Stockroom
