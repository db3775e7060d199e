import Stockroom.Entity.Basic

/-!
# Weights of a product

A row of the weight distribution holds the totals of one product. It is computed from inventory
items and never stored; the group row it comes from has to have exactly the right kinds.
-/

namespace Stockroom

/-- The totals of one product. -/
structure ProductWeights where
  prodName : String := ""
  prodWeight : Double := Double.zero
  totalWeight : Double := Double.zero
  soldWeight : Double := Double.zero
  wasteWeight : Double := Double.zero
  prodSold : Int64 := 0
  deriving DecidableEq

namespace ProductWeights

/-- The fields in the order in which they are written. -/
def schema : Schema :=
  [⟨"prod_name", .text⟩, ⟨"prod_weight", .float⟩, ⟨"total_weight", .float⟩, ⟨"sold_weight", .float⟩,
   ⟨"waste_weight", .float⟩, ⟨"prod_sold", .int⟩]

instance : Entity ProductWeights where
  schema := schema
  toValues e :=
    (e.prodName, e.prodWeight, e.totalWeight, e.soldWeight, e.wasteWeight, e.prodSold, ())
  ofValues
    | (prodName, prodWeight, totalWeight, soldWeight, wasteWeight, prodSold, ()) =>
      ⟨prodName, prodWeight, totalWeight, soldWeight, wasteWeight, prodSold⟩

/-- The member of a group row that holds the group's key. -/
def groupKeyField : String := "_id"

/-- Reads the key of a group row, which has to be a text. -/
def readGroupName (row : Document) : Except CodecError String :=
  match row.get? groupKeyField with
  | some (.string name) => .ok name
  | found => .error (.aggregateShapeMismatch groupKeyField .text found)

/-- Reads a sum of a group row, which has to be a number. -/
def readGroupSum (row : Document) (field : String) : Except CodecError Double :=
  match row.get? field with
  | some (.number n) => .ok n.toDouble
  | found => .error (.aggregateShapeMismatch field .float found)

/-- The totals of a group row; what the row does not sum is zero. -/
def ofGroup (row : Document) : Except CodecError ProductWeights := do
  let prodName ← readGroupName row
  let totalWeight ← readGroupSum row "total_weight"
  let wasteWeight ← readGroupSum row "waste_weight"
  let soldWeight ← readGroupSum row "sold_weight"
  return { prodName, totalWeight, wasteWeight, soldWeight }

end ProductWeights

end Stockroom
