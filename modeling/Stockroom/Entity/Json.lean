import Stockroom.Entity.Basic
import Stockroom.Json.Decode

/-!
# Entities as JSON values

The JSON form of an entity is its document.
-/

namespace Stockroom.Entity

variable {α : Type} [Entity α]

/-- The JSON form of an entity. -/
def toJson (entity : α) : Json :=
  (toDocument entity).toJson

/-- Reads an entity from its JSON form. -/
def decode : Json → Json.Decoded α
  | .object members => (ofDocument ⟨members⟩).mapError .codec
  | other => .error (.invalidType other .map)

end Stockroom.Entity
