import Stockroom.Proofs.IntegerTexts
import Stockroom.Proofs.SameValues
import Stockroom.Proofs.Searching

/-!
# What decoding depends on

A document is decoded field by field in the order of the schema, whatever the order of its members.
This file says for each kind of field which values have a reading and which error reports the
others. Main statement: an entity is decoded unless a field holds a value without a reading, the
first such field of the schema decides the error, and nothing but the values under the names of the
schema matters.
-/

namespace Stockroom

/-- A double has a word as its whole part if it is finite and the whole part is one. -/
theorem Double.exists_toInt64?_iff {x : Double} :
    (∃ i, x.toInt64? = some i) ↔ ∃ value, x = finite value ∧ FitsInt64 value.trunc := by
  cases x with
  | finite value => by_cases hfits : FitsInt64 value.trunc <;> simp [toInt64?, finite?, hfits]
  | _ => simp [toInt64?, finite?]

namespace Json.Number

/-- The whole part of the exact value. -/
def whole : Number → Int
  | integer value _ => value
  | float value => value.trunc

/-- A number is read as an integer if its whole part is a word. -/
theorem exists_readInt?_iff {n : Number} :
    (∃ i, n.readInt? = some i) ↔ Double.FitsInt64 n.whole := by
  cases n with
  | float x =>
    have hread : (float x).readInt? = (Double.finite x).toInt64? := rfl
    simp [hread, Double.exists_toInt64?_iff, whole]
  | integer value isWord =>
    rw [whole]
    by_cases hfits : Double.FitsInt64 value
    · have hword : (integer value isWord).toInt64? = some (Int64.ofInt value) := if_pos hfits
      simp [readInt?, hword, hfits]
    -- An unsigned word that is no signed one is rounded to no less than `2 ^ 63`.
    · have hword : (integer value isWord).toInt64? = none := if_neg hfits
      have hround : ¬ Double.RoundsToLeast value :=
        fun hbelow => absurd isWord.1 (Int.not_le.mpr hbelow.2)
      have hdouble : (Double.ofInt value).toInt64? = none := by
        rw [Double.toInt64?_ofInt_of_not_fits hfits, if_neg hround]
      simp [readInt?, hword, toDouble, hdouble, hfits]

end Json.Number

/-- A text is read as an integer if it writes a word or a double whose whole part is one. -/
theorem Text.exists_readInt?_iff {s : String} :
    (∃ i, readInt? s = some i) ↔ WritesWord (trim s).toList ∨
      ∃ x, WritesDouble (trim s).toList x ∧ Double.FitsInt64 x.trunc := by
  rw [← exists_readInt64_iff]
  simp only [← readDouble_eq_finite_iff]
  cases hword : readInt64 (trim s) with
  | ok i => simp [readInt?_eq_of_word hword]
  | error e =>
    cases hdouble : readDouble (trim s) with
    | ok x => simp [readInt?_eq_of_double hword hdouble, Double.exists_toInt64?_iff]
    | error e' => simp [readInt?, hword, hdouble, Except.toOption]

/-- A text is read as a double if it writes a finite one. -/
theorem Text.exists_readFloat?_iff {s : String} :
    (∃ x, readFloat? s = some x) ↔ WritesFinite (trim s).toList := by
  rw [← exists_finite_readDouble_iff]
  cases hread : readDouble (trim s) with
  | ok x => simp [readFloat?, hread, Except.toOption, Option.filter_eq_some_iff]
  | error e => simp [readFloat?, hread, Except.toOption]

namespace FieldKind

/-- Whether a value has a reading as a kind. -/
def Reads : FieldKind → Json → Prop
  | key, .string _ => True
  | key, .object members => ∃ s, Entries.get? "$oid" members = some (.string s)
  | id, .string s => ∃ key, EntityId.parse s = .ok key
  | int, .number n => Double.FitsInt64 n.whole
  | int, .string s => Text.WritesWord (Text.trim s).toList ∨
      ∃ x, Text.WritesDouble (Text.trim s).toList x ∧ Double.FitsInt64 x.trunc
  | float, .number _ => True
  | float, .string s => Text.WritesFinite (Text.trim s).toList
  | text, .string _ => True
  | _, _ => False

/-- The errors that report a value under a name as one without a reading: a text that is no
identifier with the reason, everything else with the value. -/
inductive Reports (name : String) : FieldKind → Json → CodecError → Prop
  | identifier {s : String} {reason : EntityId.ParseError} (h : EntityId.parse s = .error reason) :
      Reports name FieldKind.id (.string s) (.malformedIdentifier name s reason)
  | coercion {kind : FieldKind} {found : Json} (h : kind = FieldKind.id → ∀ s, found ≠ .string s) :
      Reports name kind found (.coercion name kind found)

/-- A report names the field. -/
theorem Reports.field_eq {name : String} {kind : FieldKind} {found : Json} {cause : CodecError}
    (h : Reports name kind found cause) : cause.field = name := by
  cases h <;> rfl

variable {kind : FieldKind} {name : String} {found : Json} {cause other : CodecError}

/-- A value under a name has one report. -/
theorem Reports.unique (h : Reports name kind found cause) (h' : Reports name kind found other) :
    cause = other := by
  cases h with
  | identifier hparse =>
    cases h' with
    | identifier hparse' => rw [Except.error.inj (hparse.symm.trans hparse')]
    | coercion hno => exact absurd rfl (hno rfl _)
  | coercion hno =>
    cases h' with
    | identifier hparse' => exact absurd rfl (hno rfl _)
    | coercion => rfl

/-- What may be read is read if it is there. -/
theorem exists_getD_eq_ok_iff {α ε : Type} {result : Option α} {e : ε} :
    (∃ value, (result.map Except.ok).getD (.error e) = .ok value) ↔
      ∃ value, result = some value := by
  cases result <;> simp

/-- A value is decoded if it has a reading as its kind. -/
theorem exists_decode_iff : (∃ value, kind.decode name found = .ok value) ↔ kind.Reads found := by
  cases kind with
  | key =>
    cases found with
    | string s => exact iff_of_true ⟨_, rfl⟩ trivial
    | object members =>
      rw [decode]
      split
      case h_1 s hs => exact iff_of_true ⟨_, rfl⟩ ⟨s, hs⟩
      case h_2 hother =>
        refine iff_of_false ?_ ?_
        · rintro ⟨value, hvalue⟩
          cases hvalue
        · rintro ⟨s, hs⟩
          exact hother s hs
    | _ => simp [decode, Reads]
  | id =>
    cases found with
    | string s =>
      rw [decode, Reads]
      cases EntityId.parse s <;> simp [Except.mapError]
    | _ => simp [decode, Reads]
  | int =>
    cases found with
    | number n =>
      rw [decode, exists_getD_eq_ok_iff]
      exact Json.Number.exists_readInt?_iff
    | string s =>
      rw [decode, exists_getD_eq_ok_iff]
      exact Text.exists_readInt?_iff
    | _ => simp [decode, Reads]
  | float =>
    cases found with
    | number n => exact iff_of_true ⟨_, rfl⟩ trivial
    | string s =>
      rw [decode, exists_getD_eq_ok_iff]
      exact Text.exists_readFloat?_iff
    | _ => simp [decode, Reads]
  | text =>
    cases found with
    | string s => exact iff_of_true ⟨_, rfl⟩ trivial
    | _ => simp [decode, Reads]

/-- What may be read is refused with the error for it. -/
theorem eq_of_getD_eq_error {α ε : Type} {result : Option α} {e e' : ε}
    (h : (result.map Except.ok).getD (.error e) = .error e') : e = e' := by
  cases result with
  | none => exact Except.error.inj h
  | some value => cases h

/-- But for texts that are no identifiers the error for a value is the general one. -/
theorem coercion_of_decode (hkind : kind ≠ id) (h : kind.decode name found = .error cause) :
    .coercion name kind found = cause := by
  cases kind with
  | key =>
    cases found with
    | string s => cases h
    | object members =>
      rw [decode] at h
      split at h
      case h_1 => cases h
      case h_2 => exact Except.error.inj h
    | _ => exact Except.error.inj h
  | id => exact absurd rfl hkind
  | int =>
    cases found with
    | number n => exact eq_of_getD_eq_error h
    | string s => exact eq_of_getD_eq_error h
    | _ => exact Except.error.inj h
  | float =>
    cases found with
    | number n => cases h
    | string s => exact eq_of_getD_eq_error h
    | _ => exact Except.error.inj h
  | text =>
    cases found with
    | string s => cases h
    | _ => exact Except.error.inj h

/-- The error for a value is its report. -/
theorem reports_of_decode (h : kind.decode name found = .error cause) :
    Reports name kind found cause := by
  by_cases hkind : kind = id
  · subst hkind
    cases found with
    | string s =>
      rw [decode] at h
      cases hparse : EntityId.parse s with
      | ok key =>
        rw [hparse] at h
        cases h
      | error reason =>
        rw [hparse] at h
        obtain rfl := Except.error.inj h
        exact .identifier hparse
    | _ =>
      obtain rfl := Except.error.inj h
      exact .coercion (by simp)
  · obtain rfl := coercion_of_decode hkind h
    exact .coercion fun heq => absurd heq hkind

/-- A value is refused with its report if it has no reading. -/
theorem decode_eq_error_iff : kind.decode name found = .error cause ↔
    ¬ kind.Reads found ∧ Reports name kind found cause := by
  constructor
  · intro h
    refine ⟨fun hreads => ?_, reports_of_decode h⟩
    obtain ⟨value, hvalue⟩ := exists_decode_iff.mpr hreads
    cases h.symm.trans hvalue
  · rintro ⟨hnone, hreports⟩
    cases hdecode : kind.decode name found with
    | ok value => exact absurd (exists_decode_iff.mp ⟨value, hdecode⟩) hnone
    | error e => rw [(reports_of_decode hdecode).unique hreports]

end FieldKind

namespace Document

variable {doc other : Document} {field : Field} {cause : CodecError}

/-- Whether a document holds a value under a field that has no reading as its kind. -/
def Misfills (doc : Document) (field : Field) : Prop :=
  ∃ found, doc.present? field.name = some found ∧ ¬ field.kind.Reads found

/-- A field is refused with the report of its value if the value has no reading. -/
theorem readField_eq_error_iff : doc.readField field = .error cause ↔
    ∃ found, doc.present? field.name = some found ∧ ¬ field.kind.Reads found ∧
      field.kind.Reports field.name found cause := by
  rw [readField, read]
  cases doc.present? field.name with
  | none => simp
  | some found => simp [FieldKind.decode_eq_error_iff]

/-- A field is read unless its value has no reading. -/
theorem exists_readField_eq_ok_iff :
    (∃ value, doc.readField field = .ok value) ↔ ¬ doc.Misfills field := by
  rw [readField, read, Misfills]
  cases doc.present? field.name with
  | none => simp
  | some found => simp [FieldKind.exists_decode_iff]

/-- A field has an error if its value has no reading. -/
theorem exists_readField_eq_error_iff :
    (∃ cause, doc.readField field = .error cause) ↔ doc.Misfills field := by
  rw [← not_iff_not, ← exists_readField_eq_ok_iff]
  cases doc.readField field <;> simp

/-- What is present is found and is not `null`. -/
theorem present?_eq_some_iff {name : String} {value : Json} :
    doc.present? name = some value ↔ doc.get? name = some value ∧ value ≠ .null := by
  unfold present?
  split
  case h_1 hnull => simp [hnull, eq_comm]
  case h_2 hother =>
    refine ⟨fun h => ⟨h, ?_⟩, And.left⟩
    rintro rfl
    exact hother h

/-- The members of a document under given names that are not `null`. -/
def presentAmong (doc : Document) (names : List String) : Entries Json :=
  doc.members.filter fun member => decide (member.1 ∈ names ∧ member.2 ≠ .null)

/-- Among distinct names the members that are not `null` are what is present. -/
theorem mem_presentAmong_iff (hdoc : doc.names.Nodup) {names : List String} {name : String}
    {value : Json} : (name, value) ∈ doc.presentAmong names ↔
      name ∈ names ∧ doc.present? name = some value := by
  have hmem : (name, value) ∈ doc.members ↔ doc.get? name = some value :=
    Entries.mem_iff_get?_eq_some hdoc
  rw [presentAmong, List.mem_filter, decide_eq_true_iff, hmem, present?_eq_some_iff]
  exact and_left_comm

/-- Documents with the same members under given names, up to their order and up to members that are
`null`, have the same values present under these names. -/
theorem present?_eq_of_perm (hdoc : doc.names.Nodup) (hother : other.names.Nodup)
    {names : List String} (h : (doc.presentAmong names).Perm (other.presentAmong names))
    {name : String} (hname : name ∈ names) : doc.present? name = other.present? name := by
  refine Option.ext fun value => ?_
  have hmem := h.mem_iff (a := (name, value))
  rw [mem_presentAmong_iff hdoc, mem_presentAmong_iff hother] at hmem
  simpa [hname] using hmem

end Document

/-- What is present under the names of a schema decides what is decoded. -/
theorem Schema.decode_congr {schema : Schema} {doc other : Document}
    (h : ∀ name ∈ schema.names, doc.present? name = other.present? name) :
    schema.decode doc = schema.decode other := by
  induction schema with
  | nil => rfl
  | cons field rest ih =>
    obtain ⟨hfirst, hrest⟩ := List.forall_mem_cons.mp h
    rw [decode, decode, ih hrest, Document.read, Document.read, hfirst]

namespace Entity

variable {α : Type} [Entity α] {doc other : Document} {cause : CodecError}

/-- The first field of a schema that a document misfills decides the error. -/
theorem ofDocument_eq_error_iff_misfills : ofDocument (α := α) doc = .error cause ↔
    ∃ before field after found, schema α = before ++ field :: after ∧
      (∀ earlier ∈ before, ¬ doc.Misfills earlier) ∧
      doc.present? field.name = some found ∧ ¬ field.kind.Reads found ∧
      field.kind.Reports field.name found cause := by
  simp only [ofDocument_eq_error_iff, IsFirstError, Document.exists_readField_eq_ok_iff,
    Document.readField_eq_error_iff, exists_and_left]

/-- A document is no entity if it misfills a field. -/
theorem exists_ofDocument_eq_error_iff : (∃ cause, ofDocument (α := α) doc = .error cause) ↔
    ∃ field ∈ schema α, doc.Misfills field := by
  simp only [ofDocument_eq_error_iff, exists_isFirstError_iff,
    Document.exists_readField_eq_error_iff]

/-- What it means that decoding goes field by field: a document fails if it misfills a field, the
report names the first such field of the schema, and nothing but what is present under the names of
the schema matters. A list of documents is decoded one by one up to the first failure. -/
structure DecodesByField (α : Type) [Entity α] : Prop where
  fails : ∀ doc, (∃ cause, ofDocument (α := α) doc = .error cause) ↔
    ∃ field ∈ schema α, doc.Misfills field
  reports : ∀ doc cause, ofDocument (α := α) doc = .error cause →
    ∃ before field after found, schema α = before ++ field :: after ∧
      (∀ earlier ∈ before, ¬ doc.Misfills earlier) ∧
      doc.present? field.name = some found ∧ ¬ field.kind.Reads found ∧
      cause.field = field.name ∧ field.kind.Reports field.name found cause
  depends : ∀ doc other : Document,
    (∀ name ∈ (schema α).names, doc.present? name = other.present? name) →
    ofDocument (α := α) doc = ofDocument other
  rearranged : ∀ doc other : Document, doc.names.Nodup → other.names.Nodup →
    (doc.presentAmong (schema α).names).Perm (other.presentAmong (schema α).names) →
    ofDocument (α := α) doc = ofDocument other
  list_ok : ∀ docs (entities : List α), ofDocuments docs = .ok entities ↔
    List.Forall₂ (fun doc entity => ofDocument doc = .ok entity) docs entities
  list_error : ∀ docs cause, ofDocuments (α := α) docs = .error cause ↔
    ∃ before doc after, docs = before ++ doc :: after ∧
      (∀ earlier ∈ before, ∃ entity : α, ofDocument earlier = .ok entity) ∧
      ofDocument (α := α) doc = .error cause

/-- Every entity is decoded field by field. -/
theorem decodesByField (α : Type) [Entity α] : DecodesByField α where
  fails _ := exists_ofDocument_eq_error_iff
  reports doc cause h := by
    obtain ⟨before, field, after, found, hschema, hbefore, hpresent, hreads, hreports⟩ :=
      ofDocument_eq_error_iff_misfills.mp h
    exact ⟨before, field, after, found, hschema, hbefore, hpresent, hreads, hreports.field_eq,
      hreports⟩
  depends doc other h := by
    rw [ofDocument, ofDocument, Schema.decode_congr h]
  rearranged doc other hdoc hother h := by
    rw [ofDocument, ofDocument,
      Schema.decode_congr fun name hname => Document.present?_eq_of_perm hdoc hother h hname]
  list_ok _ _ := ofDocuments_eq_ok_iff
  list_error _ _ := ofDocuments_eq_error_iff

end Entity

/-- Each kind of entities is decoded field by field. -/
theorem codecs_decodeByField :
    Entity.DecodesByField Inventory ∧ Entity.DecodesByField Metric ∧
      Entity.DecodesByField Device ∧ Entity.DecodesByField Report ∧
      Entity.DecodesByField ProductWeights :=
  ⟨Entity.decodesByField _, Entity.decodesByField _, Entity.decodesByField _,
    Entity.decodesByField _, Entity.decodesByField _⟩

/-- A device whose document misfills three fields has the error of the one that comes first in the
schema, also after other members are added and all are put in another order. -/
theorem codecs_decodeByField_reordered :
    let doc : Document := ⟨[("version", .bool true), ("status", .ofInt64 2), ("_id", .null),
      ("install_date", .string "soon")]⟩
    let other : Document := ⟨[("note", .array []), ("install_date", .string "soon"),
      ("status", .ofInt64 2), ("cost_saved", .null), ("version", .bool true)]⟩
    Entity.ofDocument (α := Device) doc = Entity.ofDocument other ∧
      Entity.ofDocument (α := Device) other =
        .error (.coercion "install_date" .int (.string "soon")) ∧
      ∃ field ∈ Device.schema, other.Misfills field := by
  intro doc other
  obtain ⟨-, -, hdevice, -, -⟩ := codecs_decodeByField
  have herror : Entity.ofDocument (α := Device) other =
      .error (.coercion "install_date" .int (.string "soon")) := by decide +kernel
  have hperm : (doc.presentAmong Device.schema.names).Perm
      (other.presentAmong Device.schema.names) := by decide +kernel
  exact ⟨hdevice.rearranged doc other (by decide) (by decide) hperm, herror,
    (hdevice.fails other).mp ⟨_, herror⟩⟩

end Stockroom
