import Mathlib.Data.List.Forall2
import Stockroom.Entity.Basic
import Stockroom.Proofs.IdentifierText

/-!
# Documents of entities

A document holds an entity if each field holds the encoded form of its value, and only that matters
for reading. This file proves that encoding an entity leads to a document that holds it, and that a
document which holds an entity is read as the entity with zero in place of the doubles that have no
JSON form. A document that is not read has the error of its first field that is not.
-/

namespace Stockroom

section FirstErrors

variable {ι ε : Type} {β : ι → Type} {read : (item : ι) → Except ε (β item)} {item : ι}
  {rest : List ι} {cause : ε}

/-- Whether an error is that of the first item that cannot be read. -/
def IsFirstError (read : (item : ι) → Except ε (β item)) (items : List ι) (cause : ε) : Prop :=
  ∃ before item after, items = before ++ item :: after ∧
    (∀ earlier ∈ before, ∃ value, read earlier = .ok value) ∧ read item = .error cause

/-- Without items there is no error. -/
theorem not_isFirstError_nil : ¬ IsFirstError read [] cause := by
  rintro ⟨before, item, after, hsplit, -⟩
  cases before <;> cases hsplit

/-- The error of the first item is the first error. -/
theorem isFirstError_cons_of_error {e : ε} (h : read item = .error e) :
    IsFirstError read (item :: rest) cause ↔ e = cause := by
  constructor
  · rintro ⟨before, found, after, hsplit, hbefore, herror⟩
    cases before with
    | nil =>
      obtain ⟨rfl, -⟩ := List.cons_eq_cons.mp hsplit
      exact Except.error.inj (h.symm.trans herror)
    | cons first others =>
      obtain ⟨rfl, -⟩ := List.cons_eq_cons.mp hsplit
      obtain ⟨value, hvalue⟩ := hbefore item List.mem_cons_self
      cases h.symm.trans hvalue
  · rintro rfl
    exact ⟨[], item, rest, rfl, List.forall_mem_nil _, h⟩

/-- Behind an item that is read the first error is that of the others. -/
theorem isFirstError_cons_of_ok {value : β item} (h : read item = .ok value) :
    IsFirstError read (item :: rest) cause ↔ IsFirstError read rest cause := by
  constructor
  · rintro ⟨before, found, after, hsplit, hbefore, herror⟩
    cases before with
    | nil =>
      obtain ⟨rfl, -⟩ := List.cons_eq_cons.mp hsplit
      cases h.symm.trans herror
    | cons first others =>
      obtain ⟨rfl, hrest⟩ := List.cons_eq_cons.mp hsplit
      exact ⟨others, found, after, hrest, (List.forall_mem_cons.mp hbefore).2, herror⟩
  · rintro ⟨before, found, after, rfl, hbefore, herror⟩
    have hall := List.forall_mem_cons.mpr ⟨⟨value, h⟩, hbefore⟩
    exact ⟨item :: before, found, after, rfl, hall, herror⟩

/-- There is a first error if some item cannot be read. -/
theorem exists_isFirstError_iff {items : List ι} :
    (∃ cause, IsFirstError read items cause) ↔
      ∃ item ∈ items, ∃ cause, read item = .error cause := by
  induction items with
  | nil =>
    refine iff_of_false (fun ⟨_, h⟩ => not_isFirstError_nil h) ?_
    rintro ⟨item, hmem, -⟩
    cases hmem
  | cons item rest ih =>
    cases hread : read item with
    | error e =>
      have hfirst : IsFirstError read (item :: rest) e :=
        (isFirstError_cons_of_error hread).mpr rfl
      exact iff_of_true ⟨e, hfirst⟩ ⟨item, List.mem_cons_self, e, hread⟩
    | ok value =>
      simp [isFirstError_cons_of_ok hread, ih, hread]

end FirstErrors

/-- A list is read if each item is, in the order of the items. -/
theorem mapM_eq_ok_iff {ε α β : Type} {read : α → Except ε β} {items : List α} {values : List β} :
    items.mapM read = .ok values ↔
      List.Forall₂ (fun item value => read item = .ok value) items values := by
  induction items generalizing values with
  | nil =>
    rw [List.forall₂_nil_left_iff]
    exact ⟨fun h => (Except.ok.inj h).symm, fun h => h ▸ rfl⟩
  | cons item rest ih =>
    rw [List.forall₂_cons_left_iff]
    simp only [← ih, List.mapM_cons]
    constructor
    · intro h
      cases hitem : read item with
      | error cause => simp [hitem, bind, Except.bind] at h
      | ok value =>
        cases hrest : rest.mapM read with
        | error cause => simp [hitem, hrest, bind, Except.bind] at h
        | ok found =>
          simp only [hitem, hrest, bind, Except.bind] at h
          exact ⟨value, found, rfl, rfl, (Except.ok.inj h).symm⟩
    · rintro ⟨value, found, hitem, hrest, rfl⟩
      simp only [hitem, hrest, bind, Except.bind]
      rfl

/-- The number, zero in place of one that is not finite. -/
def Double.finitePart (x : Double) : Double :=
  if x.isFinite then x else zero

namespace FieldKind

/-- Whether a value is not a double without a JSON form. -/
def isFinite : (kind : FieldKind) → kind.Value → Bool
  | float, value => Double.isFinite value
  | key, _ => true
  | id, _ => true
  | int, _ => true
  | text, _ => true

/-- The value, zero in place of a double without a JSON form. -/
def finitePart : (kind : FieldKind) → kind.Value → kind.Value
  | float, value => Double.finitePart value
  | key, value => value
  | id, value => value
  | int, value => value
  | text, value => value

/-- A value with a JSON form stays as it is. -/
theorem finitePart_eq_self {kind : FieldKind} {value : kind.Value}
    (h : kind.isFinite value = true) : kind.finitePart value = value := by
  cases kind with
  | float => exact if_pos h
  | _ => rfl

end FieldKind

namespace Schema

/-- Whether all doubles among the values have a JSON form. -/
def isFinite : (schema : Schema) → schema.Values → Bool
  | [], _ => true
  | field :: rest, (value, values) => field.kind.isFinite value && isFinite rest values

/-- The values, zero in place of each double without a JSON form. -/
def finitePart : (schema : Schema) → schema.Values → schema.Values
  | [], _ => ()
  | field :: rest, (value, values) => (field.kind.finitePart value, finitePart rest values)

/-- Values with JSON forms stay as they are. -/
theorem finitePart_eq_self {schema : Schema} {values : schema.Values}
    (h : schema.isFinite values = true) : schema.finitePart values = values := by
  induction schema with
  | nil => rfl
  | cons field rest ih =>
    obtain ⟨value, values⟩ := values
    obtain ⟨hvalue, hvalues⟩ := Bool.and_eq_true_iff.mp h
    rw [finitePart, FieldKind.finitePart_eq_self hvalue, ih hvalues]

/-- The members that stand for values, nothing for a value that is left out. -/
def members : (schema : Schema) → schema.Values → List (String × Option Json)
  | [], _ => []
  | field :: rest, (value, values) => (field.name, field.kind.encode? value) :: members rest values

/-- The members have the names of the fields. -/
theorem map_fst_members (schema : Schema) (values : schema.Values) :
    (schema.members values).map Prod.fst = schema.names := by
  induction schema with
  | nil => rfl
  | cons field rest ih => exact congrArg (field.name :: ·) (ih values.2)

end Schema

namespace Document

/-- Whether a document holds each of the given members and lacks those that are left out. -/
def Holds (doc : Document) (members : List (String × Option Json)) : Prop :=
  ∀ member ∈ members, doc.get? member.1 = member.2

/-- A document holds members if it holds the first one and the others. -/
theorem holds_cons {doc : Document} {member : String × Option Json}
    {members : List (String × Option Json)} :
    doc.Holds (member :: members) ↔ doc.get? member.1 = member.2 ∧ doc.Holds members :=
  List.forall_mem_cons

/-- Setting a member does not affect members of other names. -/
theorem Holds.insert_of_not_mem {doc : Document} {members : List (String × Option Json)}
    (h : doc.Holds members) {name : String} (hname : name ∉ members.map Prod.fst) (value : Json) :
    (doc.insert name value).Holds members := by
  intro member hmem
  have hne : member.1 ≠ name := by
    rintro rfl
    exact hname (List.mem_map_of_mem hmem)
  rw [get?_insert_of_ne doc hne, h member hmem]

/-- Writing a field sets its member to the encoded value, if it was absent before. -/
theorem get?_write_self {doc : Document} {name : String} (habsent : doc.get? name = none)
    (kind : FieldKind) (value : kind.Value) :
    (doc.write kind name value).get? name = kind.encode? value := by
  rw [write]
  cases kind.encode? value with
  | none => exact habsent
  | some json => exact get?_insert_self doc name json

/-- Writing a field does not affect other members. -/
theorem get?_write_of_ne (doc : Document) {name other : String} (h : other ≠ name)
    (kind : FieldKind) (value : kind.Value) :
    (doc.write kind name value).get? other = doc.get? other := by
  rw [write]
  cases kind.encode? value with
  | none => rfl
  | some json => exact get?_insert_of_ne doc h json

/-- Reads a field of a schema. -/
def readField (doc : Document) (field : Field) : Except CodecError field.kind.Value :=
  doc.read field.kind field.name

/-- The text of an identifier is read as the identifier. -/
theorem read_id_text {doc : Document} {name : String} {id : EntityId}
    (h : doc.get? name = some (.string id.text)) : doc.read .id name = .ok id := by
  rw [read, present?, h]
  simp only [FieldKind.decode, EntityId.parse_text]
  rfl

/-- A field that holds the encoded form of a value is read as its finite part. -/
theorem read_eq_ok {doc : Document} {kind : FieldKind} {name : String} {value : kind.Value}
    (h : doc.get? name = kind.encode? value) :
    doc.read kind name = .ok (kind.finitePart value) := by
  cases kind with
  | id =>
    rw [FieldKind.encode?] at h
    split at h
    case isTrue hnil =>
      rw [read, present?, h, EntityId.isNil_iff.mp hnil]
      rfl
    case isFalse => exact read_id_text h
  | key =>
    rw [read, present?, h]
    cases value <;> rfl
  | int =>
    have hword : (Json.Number.ofInt64 value).toInt64? = some value :=
      Json.Number.toInt64?_eq_some_iff.mpr rfl
    rw [read, present?, h]
    simp [FieldKind.encode?, Json.ofInt64, FieldKind.decode, Json.Number.readInt?, hword,
      FieldKind.finitePart]
  | float =>
    rw [read, present?, h]
    cases value <;> rfl
  | text =>
    rw [read, present?, h]
    rfl

end Document

namespace Schema

/-- The values of a schema are read field by field. -/
theorem decode_cons_eq_ok_iff {field : Field} {rest : Schema} {doc : Document}
    {value : field.kind.Value} {values : rest.Values} :
    decode (field :: rest) doc = .ok (value, values) ↔
      doc.read field.kind field.name = .ok value ∧ rest.decode doc = .ok values := by
  rw [decode]
  cases doc.read field.kind field.name with
  | error cause => simp [bind, Except.bind]
  | ok found =>
    cases rest.decode doc with
    | error cause => simp [bind, Except.bind]
    | ok others =>
      constructor
      · intro h
        obtain ⟨rfl, rfl⟩ := Prod.mk.inj (Except.ok.inj h)
        exact ⟨rfl, rfl⟩
      · rintro ⟨hvalue, hvalues⟩
        obtain rfl := Except.ok.inj hvalue
        obtain rfl := Except.ok.inj hvalues
        rfl

/-- The error of a document is that of the first field that cannot be read. -/
theorem decode_eq_error_iff {schema : Schema} {doc : Document} {cause : CodecError} :
    schema.decode doc = .error cause ↔ IsFirstError doc.readField schema cause := by
  induction schema with
  | nil => exact iff_of_false nofun not_isFirstError_nil
  | cons field rest ih =>
    cases hread : doc.readField field with
    | error e =>
      have hdecode : decode (field :: rest) doc = .error e := by
        rw [Document.readField] at hread
        rw [decode, hread]
        rfl
      rw [hdecode, isFirstError_cons_of_error hread, Except.error.injEq]
    | ok value =>
      have hdecode : decode (field :: rest) doc = (decode rest doc).map (Prod.mk value) := by
        rw [Document.readField] at hread
        rw [decode, hread]
        rfl
      rw [hdecode, isFirstError_cons_of_ok hread, ← ih]
      cases decode rest doc with
      | error e => exact ⟨fun h => Except.error.inj h ▸ rfl, fun h => Except.error.inj h ▸ rfl⟩
      | ok values => exact ⟨nofun, nofun⟩

/-- The values with their fields. -/
def cells : (schema : Schema) → schema.Values → List (Σ field : Field, field.kind.Value)
  | [], _ => []
  | field :: rest, (value, values) => ⟨field, value⟩ :: cells rest values

/-- Each of the values is among the members as it is encoded. -/
theorem mem_members_of_mem_cells {schema : Schema} {values : schema.Values}
    {cell : Σ field : Field, field.kind.Value} (hmem : cell ∈ schema.cells values) :
    (cell.1.name, cell.1.kind.encode? cell.2) ∈ schema.members values := by
  induction schema with
  | nil => cases hmem
  | cons field rest ih =>
    obtain ⟨value, values⟩ := values
    rcases List.mem_cons.mp hmem with rfl | hrest
    · exact List.mem_cons_self
    · exact List.mem_cons_of_mem _ (ih hrest)

/-- Each of the values is what its field is read as. -/
theorem read_of_mem_cells {schema : Schema} {doc : Document} {values : schema.Values}
    (h : schema.decode doc = .ok values) {cell : Σ field : Field, field.kind.Value}
    (hmem : cell ∈ schema.cells values) : doc.read cell.1.kind cell.1.name = .ok cell.2 := by
  induction schema with
  | nil => cases hmem
  | cons field rest ih =>
    obtain ⟨value, values⟩ := values
    obtain ⟨hvalue, hvalues⟩ := decode_cons_eq_ok_iff.mp h
    rcases List.mem_cons.mp hmem with rfl | hrest
    · exact hvalue
    · exact ih hvalues hrest

/-- A document that holds values is read as their finite part. -/
theorem decode_eq_ok {schema : Schema} {values : schema.Values} {doc : Document}
    (h : doc.Holds (schema.members values)) :
    schema.decode doc = .ok (schema.finitePart values) := by
  induction schema with
  | nil => rfl
  | cons field rest ih =>
    obtain ⟨value, values⟩ := values
    obtain ⟨hfirst, hrest⟩ := Document.holds_cons.mp h
    exact decode_cons_eq_ok_iff.mpr ⟨Document.read_eq_ok hfirst, ih hrest⟩

/-- Writing the values of other fields does not affect a member. -/
theorem get?_writeOnto_of_not_mem {schema : Schema} {name : String} (hname : name ∉ schema.names)
    (values : schema.Values) (doc : Document) :
    (schema.writeOnto values doc).get? name = doc.get? name := by
  induction schema generalizing doc with
  | nil => rfl
  | cons field rest ih =>
    obtain ⟨value, values⟩ := values
    obtain ⟨hne, hrest⟩ := not_or.mp (mt List.mem_cons.mpr hname)
    rw [writeOnto, ih hrest, Document.get?_write_of_ne doc hne]

/-- A document without the members of a schema holds the values that are written onto it. -/
theorem holds_writeOnto {schema : Schema} (hnodup : schema.names.Nodup) (values : schema.Values)
    {doc : Document} (habsent : ∀ name ∈ schema.names, doc.get? name = none) :
    (schema.writeOnto values doc).Holds (schema.members values) := by
  induction schema generalizing doc with
  | nil => exact List.forall_mem_nil _
  | cons field rest ih =>
    obtain ⟨value, values⟩ := values
    obtain ⟨hname, hrest⟩ := List.nodup_cons.mp hnodup
    have hwritten := Document.get?_write_self (habsent _ List.mem_cons_self) field.kind value
    refine Document.holds_cons.mpr ⟨?_, ih hrest values fun name hmem => ?_⟩
    · rw [writeOnto, get?_writeOnto_of_not_mem hname]
      exact hwritten
    · have hne : name ≠ field.name := fun heq => hname (heq ▸ hmem)
      rw [Document.get?_write_of_ne doc hne]
      exact habsent name (List.mem_cons_of_mem _ hmem)

end Schema

namespace Entity

variable {α : Type} [Entity α]

/-- A document is that of an entity if the schema reads the values of the entity from it. -/
theorem ofDocument_eq_ok_iff {doc : Document} {entity : α} :
    ofDocument doc = .ok entity ↔ (schema α).decode doc = .ok (toValues entity) := by
  rw [ofDocument]
  cases (schema α).decode doc with
  | error cause => simp [Except.map]
  | ok values =>
    simp only [Except.map, Except.ok.injEq]
    constructor
    · rintro rfl
      exact (toValues_ofValues values).symm
    · rintro rfl
      exact ofValues_toValues entity

/-- A document is no entity if a field cannot be read, and then the first such field decides the
error. -/
theorem ofDocument_eq_error_iff {doc : Document} {cause : CodecError} :
    ofDocument (α := α) doc = .error cause ↔
      IsFirstError doc.readField (schema α) cause := by
  rw [← Schema.decode_eq_error_iff, ofDocument]
  cases (schema α).decode doc <;> simp [Except.map]

/-- A list of documents has the error of the first document that is no entity. -/
theorem ofDocuments_eq_error_iff {docs : List Document} {cause : CodecError} :
    ofDocuments (α := α) docs = .error cause ↔
      IsFirstError (ofDocument (α := α)) docs cause := by
  rw [ofDocuments]
  induction docs with
  | nil => exact iff_of_false nofun not_isFirstError_nil
  | cons doc rest ih =>
    rw [List.mapM_cons]
    cases hdoc : ofDocument (α := α) doc with
    | error e =>
      rw [isFirstError_cons_of_error hdoc]
      exact ⟨Except.error.inj, congrArg Except.error⟩
    | ok entity =>
      rw [isFirstError_cons_of_ok hdoc, ← ih]
      cases rest.mapM (ofDocument (α := α)) <;> simp [bind, Except.bind, pure, Except.pure]

/-- The values of an entity that was read are what their fields are read as. -/
theorem read_of_mem_cells {doc : Document} {entity : α} (h : ofDocument doc = .ok entity)
    {field : Field} {value : field.kind.Value}
    (hmem : ⟨field, value⟩ ∈ (schema α).cells (toValues entity)) :
    doc.read field.kind field.name = .ok value :=
  Schema.read_of_mem_cells (ofDocument_eq_ok_iff.mp h) hmem

/-- Whether all doubles of an entity have a JSON form. -/
def isFinite (entity : α) : Bool :=
  (schema α).isFinite (toValues entity)

/-- The entity, zero in place of each double without a JSON form. -/
def finitePart (entity : α) : α :=
  ofValues ((schema α).finitePart (toValues entity))

/-- An entity whose doubles have JSON forms stays as it is. -/
theorem finitePart_eq_self {entity : α} (h : isFinite entity = true) :
    finitePart entity = entity := by
  rw [finitePart, Schema.finitePart_eq_self h, ofValues_toValues]

/-- Whether a document holds the members of an entity. -/
def HeldBy (entity : α) (doc : Document) : Prop :=
  doc.Holds ((schema α).members (toValues entity))

/-- The document of an entity holds it. -/
theorem heldBy_toDocument (entity : α) : HeldBy entity (toDocument entity) :=
  Schema.holds_writeOnto names_nodup _ fun _ _ => rfl

/-- A document that holds an entity has each of its values as it is encoded. -/
theorem HeldBy.get?_of_mem_cells {entity : α} {doc : Document} (h : HeldBy entity doc)
    {cell : Σ field : Field, field.kind.Value}
    (hmem : cell ∈ (schema α).cells (toValues entity)) :
    doc.get? cell.1.name = cell.1.kind.encode? cell.2 :=
  h _ (Schema.mem_members_of_mem_cells hmem)

/-- A document that holds an entity is read as its finite part. -/
theorem HeldBy.ofDocument_eq_ok {entity : α} {doc : Document} (h : HeldBy entity doc) :
    ofDocument doc = .ok (finitePart entity) := by
  rw [ofDocument_eq_ok_iff, finitePart, toValues_ofValues]
  exact Schema.decode_eq_ok h

end Entity

end Stockroom
