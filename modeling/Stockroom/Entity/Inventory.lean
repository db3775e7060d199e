import Stockroom.Entity.Basic

/-!
# Inventory items

An inventory item is a lot of one product with its identifiers, dates, prices and weights. Its
device and its metrics are found through its identifiers.
-/

namespace Stockroom

/-- A lot of a product in stock. -/
structure Inventory where
  key : Option DocumentKey := none
  itemId : EntityId := EntityId.nil
  deviceId : EntityId := EntityId.nil
  customerId : EntityId := EntityId.nil
  name : String := ""
  origin : String := ""
  lot : String := ""
  sku : String := ""
  upc : Int64 := 0
  dateArrived : Int64 := 0
  expiryDate : Int64 := 0
  dateSold : Int64 := 0
  timestamp : Int64 := 0
  price : Double := Double.zero
  salePrice : Double := Double.zero
  totalWeight : Double := Double.zero
  soldWeight : Double := Double.zero
  wasteWeight : Double := Double.zero
  donateWeight : Double := Double.zero
  prodQuantity : Int64 := 0
  deriving DecidableEq

namespace Inventory

/-- The field with the name of the product. -/
def nameField : Field := ⟨"name", .text⟩

/-- The field with the weight that arrived. -/
def totalWeightField : Field := ⟨"total_weight", .float⟩

/-- The field with the weight that was sold. -/
def soldWeightField : Field := ⟨"sold_weight", .float⟩

/-- The field with the weight that was thrown away. -/
def wasteWeightField : Field := ⟨"waste_weight", .float⟩

/-- The fields in the order in which they are written. -/
def schema : Schema :=
  [.key, ⟨"item_id", .id⟩, ⟨"device_id", .id⟩, ⟨"rs_customer_id", .id⟩, nameField,
   ⟨"origin", .text⟩, ⟨"lot", .text⟩, ⟨"sku", .text⟩, ⟨"upc", .int⟩, ⟨"date_arrived", .int⟩,
   ⟨"expiry_date", .int⟩, ⟨"date_sold", .int⟩, ⟨"timestamp", .int⟩, ⟨"price", .float⟩,
   ⟨"sale_price", .float⟩, totalWeightField, soldWeightField, wasteWeightField,
   ⟨"donate_weight", .float⟩, ⟨"prod_quantity", .int⟩]

instance : Entity Inventory where
  schema := schema
  toValues e :=
    (e.key, e.itemId, e.deviceId, e.customerId, e.name, e.origin, e.lot, e.sku, e.upc,
      e.dateArrived, e.expiryDate, e.dateSold, e.timestamp, e.price, e.salePrice, e.totalWeight,
      e.soldWeight, e.wasteWeight, e.donateWeight, e.prodQuantity, ())
  ofValues
    | (key, itemId, deviceId, customerId, name, origin, lot, sku, upc, dateArrived, expiryDate,
      dateSold, timestamp, price, salePrice, totalWeight, soldWeight, wasteWeight, donateWeight,
      prodQuantity, ()) =>
      ⟨key, itemId, deviceId, customerId, name, origin, lot, sku, upc, dateArrived, expiryDate,
      dateSold, timestamp, price, salePrice, totalWeight, soldWeight, wasteWeight, donateWeight,
      prodQuantity⟩

end Inventory

end Stockroom
