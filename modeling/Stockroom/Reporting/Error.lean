import Stockroom.Entity.Basic
import Stockroom.Query.Compile
import Stockroom.Store.Request

/-!
# Reporting errors

A reporting operation fails because its request is refused, because the store fails, because a
document is not what it should be, or because nothing matches.
-/

namespace Stockroom

/-- The operations of the reporting service that talk to the store. -/
inductive Operation
  | searchInventory
  | searchMetrics
  | searchDevices
  | searchByFieldValue
  | weightDistribution
  | insertInventory
  | insertMetrics
  | insertDevices
  | insertReports
  deriving DecidableEq

/-- The name of an operation in messages. -/
def Operation.name : Operation → String
  | searchInventory => "search_inventory"
  | searchMetrics => "search_metrics_for_inventory"
  | searchDevices => "search_devices_for_inventory"
  | searchByFieldValue => "search_by_field_value"
  | weightDistribution => "weight_distribution"
  | insertInventory => "insert_inventory"
  | insertMetrics => "insert_metrics"
  | insertDevices => "insert_devices"
  | insertReports => "insert_reports"

/-- Why a reporting operation fails. -/
inductive ReportError
  | validation (cause : ValidationError)
  | codec (cause : CodecError)
  | noResults (operation : Operation)
  | store (operation : Operation) (cause : StoreError)
  deriving DecidableEq

namespace ReportError

/-- The wording of an error. -/
def message : ReportError → String
  | validation cause => cause.message
  | codec cause => cause.message
  | noResults operation => s!"{operation.name}: no matching records"
  | store operation cause => s!"{operation.name}: {cause.message}"

/-- The operation that failed, if the error knows it. -/
def operation? : ReportError → Option Operation
  | validation _ => none
  | codec _ => none
  | noResults operation => some operation
  | store operation _ => some operation

/-- Whether the operation found nothing. -/
def isNoResults : ReportError → Bool
  | noResults _ => true
  | _ => false

end ReportError

/-- A reporting computation: a session that may fail. -/
abbrev Reporting (α : Type) := ExceptT ReportError Session α

namespace Reporting

/-- A result that needs no store. -/
def ofExcept {α : Type} (result : Except ReportError α) : Reporting α :=
  .mk (.done result)

/-- A request to the store, a failure of which is a failure of the operation. -/
def request (operation : Operation) (request : Request) : Reporting request.Reply :=
  .mk (.call request fun reply => .done (reply.mapError (.store operation)))

/-- The items, if there are any. -/
def nonEmpty {α : Type} (operation : Operation) (items : List α) : Reporting (List α) :=
  ofExcept (if items.isEmpty then .error (.noResults operation) else .ok items)

/-- The entities of documents. -/
def decodeAll {α : Type} [Entity α] (docs : List Document) : Reporting (List α) :=
  ofExcept ((Entity.ofDocuments docs).mapError .codec)

end Reporting

end Stockroom
