import Stockroom.Entity.Basic

/-!
# Metrics

A metric is one reading of the climate around an item, taken by a device.
-/

namespace Stockroom

/-- One reading of the climate around an item. -/
structure Metric where
  key : Option DocumentKey := none
  itemId : EntityId := EntityId.nil
  deviceId : EntityId := EntityId.nil
  timestamp : Int64 := 0
  tempIn : Double := Double.zero
  humidity : Double := Double.zero
  ethylene : Double := Double.zero
  carbonDi : Double := Double.zero
  name : String := ""
  sku : String := ""
  lot : String := ""
  deriving DecidableEq

namespace Metric

/-- The field with the identifier of the item that the reading belongs to. -/
def itemIdField : Field := ⟨"item_id", .id⟩

/-- The fields in the order in which they are written. -/
def schema : Schema :=
  [.key, itemIdField, ⟨"device_id", .id⟩, ⟨"timestamp", .int⟩, ⟨"temp_in", .float⟩,
   ⟨"humidity", .float⟩, ⟨"ethylene", .float⟩, ⟨"carbon_di", .float⟩, ⟨"name", .text⟩,
   ⟨"sku", .text⟩, ⟨"lot", .text⟩]

instance : Entity Metric where
  schema := schema
  toValues e :=
    (e.key, e.itemId, e.deviceId, e.timestamp, e.tempIn, e.humidity, e.ethylene, e.carbonDi, e.name,
      e.sku, e.lot, ())
  ofValues
    | (key, itemId, deviceId, timestamp, tempIn, humidity, ethylene, carbonDi, name, sku, lot,
      ()) =>
      ⟨key, itemId, deviceId, timestamp, tempIn, humidity, ethylene, carbonDi, name, sku, lot⟩

end Metric

end Stockroom
