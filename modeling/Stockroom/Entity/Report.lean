import Stockroom.Entity.Basic

/-!
# Stored reports

A stored report keeps the weights of a period under a name and a type.
-/

namespace Stockroom

/-- The weights of a period. -/
structure Report where
  key : Option DocumentKey := none
  reportId : EntityId := EntityId.nil
  reportType : String := ""
  name : String := ""
  timestamp : Int64 := 0
  totalWeight : Double := Double.zero
  soldWeight : Double := Double.zero
  wasteWeight : Double := Double.zero
  donateWeight : Double := Double.zero
  deriving DecidableEq

namespace Report

/-- The fields in the order in which they are written. -/
def schema : Schema :=
  [.key, ⟨"report_id", .id⟩, ⟨"report_type", .text⟩, ⟨"name", .text⟩, ⟨"timestamp", .int⟩,
   ⟨"total_weight", .float⟩, ⟨"sold_weight", .float⟩, ⟨"waste_weight", .float⟩,
   ⟨"donate_weight", .float⟩]

instance : Entity Report where
  schema := schema
  toValues e :=
    (e.key, e.reportId, e.reportType, e.name, e.timestamp, e.totalWeight, e.soldWeight,
      e.wasteWeight, e.donateWeight, ())
  ofValues
    | (key, reportId, reportType, name, timestamp, totalWeight, soldWeight, wasteWeight,
      donateWeight, ()) =>
      ⟨key, reportId, reportType, name, timestamp, totalWeight, soldWeight, wasteWeight,
      donateWeight⟩

end Report

end Stockroom
