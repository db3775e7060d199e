import Stockroom.EntityId.Basic
import Stockroom.Entries
import Stockroom.Json.Basic

/-!
# Documents

A document is what a store keeps: the members of a JSON object in their order. Setting a member
that is already there keeps its place.
-/

namespace Stockroom

/-- The members of a JSON object in their order. -/
structure Document where
  members : Entries Json
  deriving DecidableEq

namespace Document

/-- The document without members. -/
def empty : Document := ⟨[]⟩

instance : Inhabited Document := ⟨empty⟩

/-- The value of a member. -/
def get? (doc : Document) (name : String) : Option Json :=
  doc.members.get? name

/-- The value of a member, a `null` counting as absence. -/
def present? (doc : Document) (name : String) : Option Json :=
  match doc.get? name with
  | some .null => none
  | value => value

/-- The document with a member set. -/
def insert (doc : Document) (name : String) (value : Json) : Document :=
  ⟨doc.members.put name value⟩

/-- The document that results from setting members one after the other. -/
def ofEntries (entries : Entries Json) : Document :=
  entries.foldl (fun doc (name, value) => doc.insert name value) empty

/-- The names of the members in their order. -/
def names (doc : Document) : List String :=
  doc.members.names

/-- The document as a JSON object. -/
def toJson (doc : Document) : Json :=
  .object doc.members

/-- The document of a JSON object. -/
def ofJson? : Json → Option Document
  | .object members => some ⟨members⟩
  | _ => none

@[simp] theorem get?_empty (name : String) : empty.get? name = none := rfl

@[simp] theorem get?_insert_self (doc : Document) (name : String) (value : Json) :
    (doc.insert name value).get? name = some value :=
  Entries.get?_put_self name value doc.members

theorem get?_insert_of_ne (doc : Document) {name other : String} (h : other ≠ name)
    (value : Json) : (doc.insert name value).get? other = doc.get? other :=
  Entries.get?_put_of_ne h value doc.members

@[simp] theorem ofJson?_toJson (doc : Document) : ofJson? doc.toJson = some doc := rfl

end Document

/-- The key that a store assigns to a document. Its form is up to the store. -/
structure DocumentKey where
  text : String
  deriving DecidableEq

/-- A key made from a fresh identifier: its 32 digits. -/
def EntityId.key (id : EntityId) : DocumentKey :=
  ⟨String.ofList id.digits⟩

/-- The member that holds the key of a document. -/
def DocumentKey.fieldName : String := "_id"

end Stockroom
