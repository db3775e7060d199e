import Stockroom.Document.Field

/-!
# Schemas

A schema lists the fields of an entity in the order in which they are read and written. One value
for each field makes up the values of a schema, and encoding and decoding go through them, so that
every entity shares one codec.
-/

namespace Stockroom

/-- A field of an entity: the name of its member and the kind of its values. -/
structure Field where
  name : String
  kind : FieldKind
  deriving DecidableEq

/-- The field that holds the key which the store assigned. -/
def Field.key : Field := ⟨DocumentKey.fieldName, .key⟩

/-- The fields of an entity in their order. -/
abbrev Schema := List Field

namespace Schema

/-- The names of the fields in their order. -/
def names (schema : Schema) : List String :=
  schema.map Field.name

/-- One value for each field. -/
def Values : Schema → Type
  | [] => Unit
  | field :: rest => field.kind.Value × Values rest

/-- Writes the values into a document, after the members that are there. -/
def writeOnto : (schema : Schema) → schema.Values → Document → Document
  | [], _, doc => doc
  | field :: rest, (value, values), doc =>
    writeOnto rest values (doc.write field.kind field.name value)

/-- The document of the values. -/
def encode (schema : Schema) (values : schema.Values) : Document :=
  schema.writeOnto values Document.empty

/-- The values of a document; the first field that cannot be read is the error. -/
def decode : (schema : Schema) → Document → Except CodecError schema.Values
  | [], _ => .ok ()
  | field :: rest, doc => do
    let value ← doc.read field.kind field.name
    let values ← decode rest doc
    return (value, values)

end Schema

end Stockroom
