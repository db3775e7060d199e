import Stockroom.Document.Basic
import Stockroom.EntityId.Parse
import Stockroom.Json.Describe
import Stockroom.Text.Numeral

/-!
# Typed fields of documents

A field of a document has one of five kinds. Reading is lenient where stores differ: numbers may
arrive as texts, and an absent member is the zero of its kind. Writing has one form for each value,
and leaves out the nil identifier and a missing key.
-/

namespace Stockroom

/-- The kinds of fields. -/
inductive FieldKind
  | key
  | id
  | int
  | float
  | text
  deriving DecidableEq

namespace FieldKind

/-- The values of a kind. -/
abbrev Value : FieldKind → Type
  | key => Option DocumentKey
  | id => EntityId
  | int => Int64
  | float => Double
  | text => String

/-- The value that an absent member stands for. -/
def zero : (kind : FieldKind) → kind.Value
  | key => (none : Option DocumentKey)
  | id => EntityId.nil
  | int => (0 : Int64)
  | float => Double.zero
  | text => ""

/-- The name of a kind in messages. -/
def description : FieldKind → String
  | key => "document key"
  | id => "identifier text"
  | int => "integer"
  | float => "float"
  | text => "text"

end FieldKind

/-- Why a document is not what it should be. -/
inductive CodecError
  /-- The text of an identifier field is no identifier. -/
  | malformedIdentifier (field value : String) (reason : EntityId.ParseError)
  /-- The value of a field has no reading as its kind. -/
  | coercion (field : String) (expected : FieldKind) (found : Json)
  /-- A row of an aggregation lacks a value of the right kind. -/
  | aggregateShapeMismatch (field : String) (expected : FieldKind) (found : Option Json)
  deriving DecidableEq

namespace CodecError

/-- The field that is at fault. -/
def field : CodecError → String
  | malformedIdentifier field _ _ => field
  | coercion field _ _ => field
  | aggregateShapeMismatch field _ _ => field

/-- The wording of an error. -/
def message : CodecError → String
  | malformedIdentifier field value reason =>
    let shown := Text.quoted value
    s!"field {field}: malformed identifier {shown}: {reason.message}"
  | coercion field expected found =>
    s!"field {field}: cannot coerce {found.describe} to {expected.description}"
  | aggregateShapeMismatch field expected found =>
    let shown := (found.map Json.describe).getD "nothing"
    s!"aggregate output field {field}: expected {expected.description}, found {shown}"

end CodecError

/-- The integer that a JSON number stands for: itself if it is a signed word, else the whole part of
its double if that is one. -/
def Json.Number.readInt? (n : Json.Number) : Option Int64 :=
  match n.toInt64? with
  | some value => some value
  | none => n.toDouble.toInt64?

/-- The integer that a text stands for: the integer it writes, else the whole part of the double it
writes, if either is a signed word. -/
def Text.readInt? (s : String) : Option Int64 :=
  let trimmed := Text.trim s
  match Text.readInt64 trimmed with
  | .ok value => some value
  | .error _ => (Text.readDouble trimmed).toOption.bind Double.toInt64?

/-- The finite double that a text stands for. -/
def Text.readFloat? (s : String) : Option Double :=
  (Text.readDouble (Text.trim s)).toOption.filter Double.isFinite

namespace FieldKind

/-- Reads a value that is present. -/
def decode (kind : FieldKind) (field : String) (found : Json) : Except CodecError kind.Value :=
  let refused {α : Type} : Except CodecError α := .error (.coercion field kind found)
  match kind with
  | key =>
    match found with
    | .string s => .ok (some (DocumentKey.mk s))
    | .object members =>
      match Entries.get? "$oid" members with
      | some (.string s) => .ok (some (DocumentKey.mk s))
      | _ => refused
    | _ => refused
  | id =>
    match found with
    | .string s => (EntityId.parse s).mapError (.malformedIdentifier field s)
    | _ => refused
  | int =>
    match found with
    | .number n => (n.readInt?.map .ok).getD refused
    | .string s => ((Text.readInt? s).map .ok).getD refused
    | _ => refused
  | float =>
    match found with
    | .number n => .ok n.toDouble
    | .string s => ((Text.readFloat? s).map .ok).getD refused
    | _ => refused
  | text =>
    match found with
    | .string s => .ok s
    | _ => refused

/-- Writes a value; nothing for the values that are left out. -/
def encode? : (kind : FieldKind) → kind.Value → Option Json
  | key, value => (value : Option DocumentKey).map fun k => .string k.text
  | id, value => if EntityId.isNil value then none else some (.string (EntityId.text value))
  | int, value => some (.ofInt64 value)
  | float, value => some (.ofDouble value)
  | text, value => some (.string value)

end FieldKind

namespace Document

/-- Reads a field, an absent member as the zero of its kind. -/
def read (doc : Document) (kind : FieldKind) (name : String) : Except CodecError kind.Value :=
  match doc.present? name with
  | none => .ok kind.zero
  | some found => kind.decode name found

/-- Reads the key that the store assigned. -/
def readKey (doc : Document) : Except CodecError (Option DocumentKey) :=
  doc.read .key DocumentKey.fieldName

/-- Writes a field, unless its value is one that is left out. -/
def write (doc : Document) (kind : FieldKind) (name : String) (value : kind.Value) : Document :=
  match kind.encode? value with
  | none => doc
  | some json => doc.insert name json

/-- Writes the key of a document. -/
def writeKey (doc : Document) (key : Option DocumentKey) : Document :=
  doc.write .key DocumentKey.fieldName key

end Document

end Stockroom
