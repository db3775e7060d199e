import Stockroom.Entity.Schema

/-!
# Entities

An entity is a structure that is the same thing as the values of its schema. Its documents are those
of the schema.
-/

namespace Stockroom

/-- A type of entities, given by a schema with distinct names and a bijection with its values. -/
class Entity (α : Type) where
  schema : Schema
  toValues : α → schema.Values
  ofValues : schema.Values → α
  ofValues_toValues : ∀ entity, ofValues (toValues entity) = entity := by intros; rfl
  toValues_ofValues : ∀ values, toValues (ofValues values) = values := by intros; rfl
  names_nodup : schema.names.Nodup := by decide

namespace Entity

variable {α : Type} [Entity α]

/-- The document of an entity. -/
def toDocument (entity : α) : Document :=
  (schema α).encode (toValues entity)

/-- The entity of a document. -/
def ofDocument (doc : Document) : Except CodecError α :=
  ((schema α).decode doc).map ofValues

/-- The entities of documents, or the error of the first document that is none. -/
def ofDocuments (docs : List Document) : Except CodecError (List α) :=
  docs.mapM ofDocument

/-- The documents of entities. -/
def toDocuments (entities : List α) : List Document :=
  entities.map toDocument

end Entity

end Stockroom
