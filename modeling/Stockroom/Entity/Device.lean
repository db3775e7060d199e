import Stockroom.Entity.Basic

/-!
# Devices

A device is a unit installed at a customer, with its service history.
-/

namespace Stockroom

/-- A unit installed at a customer. -/
structure Device where
  key : Option DocumentKey := none
  deviceId : EntityId := EntityId.nil
  customerId : EntityId := EntityId.nil
  installDate : Int64 := 0
  maintenanceDate : Int64 := 0
  status : String := ""
  numReplacement : Int64 := 0
  costSaved : Double := Double.zero
  version : Int64 := 0
  deriving DecidableEq

namespace Device

/-- The field with the identifier of the device. -/
def deviceIdField : Field := ⟨"device_id", .id⟩

/-- The fields in the order in which they are written. -/
def schema : Schema :=
  [.key, deviceIdField, ⟨"rs_customer_id", .id⟩, ⟨"install_date", .int⟩, ⟨"maintenance_date", .int⟩,
   ⟨"status", .text⟩, ⟨"num_replacement", .int⟩, ⟨"cost_saved", .float⟩, ⟨"version", .int⟩]

instance : Entity Device where
  schema := schema
  toValues e :=
    (e.key, e.deviceId, e.customerId, e.installDate, e.maintenanceDate, e.status,
      e.numReplacement, e.costSaved, e.version, ())
  ofValues
    | (key, deviceId, customerId, installDate, maintenanceDate, status, numReplacement, costSaved,
      version, ()) =>
      ⟨key, deviceId, customerId, installDate, maintenanceDate, status, numReplacement, costSaved,
      version⟩

end Device

end Stockroom
