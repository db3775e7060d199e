import Stockroom.Document.Field

/-!
# Typed reading of JSON values

A request arrives as a JSON value and is read into a type, or refused with the first problem in the
order of the value. A record is an object, in which every member may have several spellings and
unknown members are ignored, or the array of its members in the order of their declaration.
-/

namespace Stockroom.Json

/-- What a type wants in place of a value. -/
inductive Expected
  | text
  | float
  | sequence
  | map
  | record (name : String)
  | variant
  | unit
  deriving DecidableEq

/-- The wording of an expectation. -/
def Expected.description : Expected → String
  | text => "a string"
  | float => "f64"
  | sequence => "a sequence"
  | map => "a map"
  | record name => s!"struct {name}"
  | variant => "string or map"
  | unit => "unit"

/-- Why a JSON value is not a value of a type. -/
inductive DecodeError
  | invalidType (found : Json) (expected : Expected)
  | duplicateField (name : String)
  | missingField (name : String)
  | tooFewItems (found wanted : Nat) (record : String)
  | tooManyItems (found : Nat)
  | unknownVariant (name : String) (known : List String)
  | severalVariants
  | codec (cause : CodecError)
  deriving DecidableEq

/-- A value as it is shown where another type was wanted. -/
def unexpected : Json → String
  | null => "null"
  | bool value => if value then "boolean `true`" else "boolean `false`"
  | number (.integer value isWord) => "integer `" ++ (Number.integer value isWord).text ++ "`"
  | number (.float value) => "floating point `" ++ (Number.float value).text ++ "`"
  | string value => "string " ++ Text.quoted value
  | array _ => "sequence"
  | object _ => "map"

/-- The wording of a decode error. -/
def DecodeError.message : DecodeError → String
  | invalidType found expected =>
    s!"invalid type: {found.unexpected}, expected {expected.description}"
  | duplicateField name => s!"duplicate field `{name}`"
  | missingField name => s!"missing field `{name}`"
  | tooFewItems found wanted record =>
    s!"invalid length {found}, expected struct {record} with {wanted} elements"
  | tooManyItems found => s!"invalid length {found}, expected fewer elements in array"
  | unknownVariant name known =>
    let shown := " or ".intercalate (known.map fun k => s!"`{k}`")
    s!"unknown variant `{name}`, expected {shown}"
  | severalVariants => "invalid value: map, expected map with a single key"
  | codec cause => cause.message

/-- A result of typed reading. -/
abbrev Decoded (α : Type) := Except DecodeError α

/-- Reads a text. -/
def decodeText : Json → Decoded String
  | string s => .ok s
  | other => .error (.invalidType other .text)

/-- Reads any number as a double. -/
def decodeFloat : Json → Decoded Double
  | number n => .ok n.toDouble
  | other => .error (.invalidType other .float)

/-- Reads an array item by item. -/
def decodeList {α : Type} (decodeItem : Json → Decoded α) : Json → Decoded (List α)
  | array items => items.mapM decodeItem
  | other => .error (.invalidType other .sequence)

/-- Reads `null` as nothing. -/
def decodeOption {α : Type} (decodeValue : Json → Decoded α) : Json → Decoded (Option α)
  | null => .ok none
  | value => (decodeValue value).map some

/-- The JSON form of a record: its name, its members in the order of their declaration, the
spellings of each with the primary one first, and how a draft of the record takes up the value of a
member. -/
structure RecordForm (Member Draft : Type) where
  name : String
  members : List Member
  spellings : Member → List String
  absorb : Draft → Member → Json → Decoded Draft

namespace RecordForm

variable {Member Draft : Type}

/-- The member that has a spelling. -/
def member? (form : RecordForm Member Draft) (name : String) : Option Member :=
  form.members.find? fun member => (form.spellings member).contains name

/-- Takes up a member of an object; an unknown one changes nothing. -/
def absorbNamed (form : RecordForm Member Draft) (draft : Draft) (entry : String × Json) :
    Decoded Draft :=
  match form.member? entry.1 with
  | some member => form.absorb draft member entry.2
  | none => .ok draft

/-- Reads an object, starting from the empty draft. -/
def ofObject (form : RecordForm Member Draft) (empty : Draft) (members : Entries Json) :
    Decoded Draft :=
  members.foldlM form.absorbNamed empty

/-- Reads the items of an array as the members in their order. -/
def ofItems (form : RecordForm Member Draft) (empty : Draft) (items : List Json) :
    Decoded Draft := do
  let draft ← (form.members.zip items).foldlM (fun draft (member, value) =>
    form.absorb draft member value) empty
  if form.members.length < items.length then throw (.tooManyItems items.length)
  return draft

/-- Reads a record whose members all have defaults. -/
def decode (form : RecordForm Member Draft) (empty : Draft) : Json → Decoded Draft
  | object members => form.ofObject empty members
  | array items => form.ofItems empty items
  | other => .error (.invalidType other (.record form.name))

end RecordForm

/-- Fills the slot of a member, which must be filled once only. -/
def fill {α : Type} (name : String) (slot : Option α) (decodeValue : Json → Decoded α)
    (value : Json) : Decoded (Option α) :=
  match slot with
  | some _ => .error (.duplicateField name)
  | none => (decodeValue value).map some

end Stockroom.Json
