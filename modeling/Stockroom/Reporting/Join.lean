import Stockroom.EntityId.Basic
import Stockroom.Json.Decode
import Stockroom.Query.Filter

/-!
# Foreign-key joins

Records of one collection select records of another through an identifier that both hold. Either
every record counts, or only the last one does.
-/

namespace Stockroom

/-- How records select the records joined to them. -/
inductive ForeignKeyJoin
  /-- Any of the keys, the nil key left out. -/
  | allRecords
  /-- The key of the last record, nil or not. -/
  | lastRecord
  deriving DecidableEq

namespace ForeignKeyJoin

/-- The join with a name, in any letter case. -/
def ofName? (name : String) : Option ForeignKeyJoin :=
  let name := name.map Char.toLower
  if name = "all" ∨ name = "all_records" then some allRecords
  else if name = "last" ∨ name = "last_record" then some lastRecord
  else none

/-- The name of a join in its JSON form. -/
def name : ForeignKeyJoin → String
  | allRecords => "all_records"
  | lastRecord => "last_record"

/-- The names of the joins in their JSON form. -/
def names : List String :=
  [allRecords.name, lastRecord.name]

/-- The join with a name in its JSON form. -/
def ofVariant (variant : String) : Json.Decoded ForeignKeyJoin :=
  if variant = allRecords.name then .ok allRecords
  else if variant = lastRecord.name then .ok lastRecord
  else .error (.unknownVariant variant names)

/-- Reads a join: its name, or an object with its name over `null`. -/
def decode : Json → Json.Decoded ForeignKeyJoin
  | .string variant => ofVariant variant
  | .object [(variant, value)] => do
    let join ← ofVariant variant
    if value = .null then return join
    else throw (.invalidType value .unit)
  | .object _ => .error .severalVariants
  | other => .error (.invalidType other .variant)

/-- Writes a join as its name. -/
def toJson (join : ForeignKeyJoin) : Json :=
  .string join.name

/-- The identifiers that are not nil, each once, in the order of their first occurrence. -/
def distinctKeys : List EntityId → List EntityId
  | [] => []
  | key :: rest =>
    if key.isNil then distinctKeys rest
    else key :: (distinctKeys rest).filter fun other => decide (other ≠ key)

/-- The filter for the records whose field holds a key of the given records. -/
def filter (join : ForeignKeyJoin) (field : String) (keys : List EntityId) : Filter :=
  match join with
  | allRecords =>
    Filter.empty.insert field (.oneOf ((distinctKeys keys).map fun key => .text key.text))
  | lastRecord =>
    match keys.getLast? with
    | some key => Filter.eq field (.text key.text)
    | none => Filter.empty

end ForeignKeyJoin

end Stockroom
