import Stockroom.Proofs.DecimalText
import Stockroom.Proofs.Ingest
import Stockroom.Proofs.InventorySearch

/-!
# Searching what was taken in

A search by values asks that fields of an item carry given values: texts, integers in decimal and
identifiers by their texts. After any run of ingest calls such a search finds the items taken in
that carry the values, in the order in which they were taken in, and nothing else.
-/

namespace Stockroom

namespace Inventory

/-- The text fields of items. -/
inductive TextField
  | name
  | origin
  | lot
  | sku
  deriving DecidableEq

/-- The name of a text field in documents and parameters. -/
def TextField.fieldName : TextField → String
  | name => "name"
  | origin => "origin"
  | lot => "lot"
  | sku => "sku"

/-- The text of an item in a field. -/
def TextField.value (item : Inventory) : TextField → String
  | name => item.name
  | origin => item.origin
  | lot => item.lot
  | sku => item.sku

/-- The integer fields of items. -/
inductive IntField
  | upc
  | dateArrived
  | expiryDate
  | dateSold
  | timestamp
  | prodQuantity
  deriving DecidableEq

/-- The name of an integer field in documents and parameters. -/
def IntField.fieldName : IntField → String
  | upc => "upc"
  | dateArrived => "date_arrived"
  | expiryDate => "expiry_date"
  | dateSold => "date_sold"
  | timestamp => "timestamp"
  | prodQuantity => "prod_quantity"

/-- The integer of an item in a field. -/
def IntField.value (item : Inventory) : IntField → Int64
  | upc => item.upc
  | dateArrived => item.dateArrived
  | expiryDate => item.expiryDate
  | dateSold => item.dateSold
  | timestamp => item.timestamp
  | prodQuantity => item.prodQuantity

/-- The identifier fields of items. -/
inductive IdField
  | itemId
  | deviceId
  | customerId
  deriving DecidableEq

/-- The name of an identifier field in documents and parameters. -/
def IdField.fieldName : IdField → String
  | itemId => "item_id"
  | deviceId => "device_id"
  | customerId => "rs_customer_id"

/-- The identifier of an item in a field. -/
def IdField.value (item : Inventory) : IdField → EntityId
  | itemId => item.itemId
  | deviceId => item.deviceId
  | customerId => item.customerId

/-- A value that a field of an item may carry: a text that is not empty, an integer, or an
identifier other than nil. -/
inductive Wanted
  | text (field : TextField) (value : String) (given : value ≠ "")
  | int (field : IntField) (value : Int64)
  | id (field : IdField) (value : EntityId) (given : value ≠ .nil)

namespace Wanted

/-- Whether an item carries the value. -/
def CarriedBy (item : Inventory) : Wanted → Prop
  | text field value _ => field.value item = value
  | int field value => field.value item = value
  | id field value _ => field.value item = value

instance (item : Inventory) : (wanted : Wanted) → Decidable (wanted.CarriedBy item)
  | text .. => inferInstanceAs (Decidable (_ = _))
  | int .. => inferInstanceAs (Decidable (_ = _))
  | id .. => inferInstanceAs (Decidable (_ = _))

/-- The type by which the value is compared. -/
def type : Wanted → ParamType
  | text .. => .text
  | int .. => .int
  | id .. => .text

/-- The parameter that asks for the value. -/
def param : Wanted → SearchParam
  | text field value _ => { field := field.fieldName, kind := "string", equal := value }
  | int field value => { field := field.fieldName, kind := "int", equal := toString value.toInt }
  | id field value _ => { field := field.fieldName, kind := "string", equal := value.text }

/-- The name of the field. -/
def fieldName (wanted : Wanted) : String :=
  wanted.param.field

/-- What the document of an item holds under the field. -/
def stored (item : Inventory) : Wanted → Option Json
  | text field _ _ => some (.string (field.value item))
  | int field _ => some (.ofInt64 (field.value item))
  | id field _ _ => FieldKind.encode? .id (field.value item)

/-- Every field has a name. -/
theorem fieldName_ne_empty (wanted : Wanted) : wanted.fieldName ≠ "" := by
  cases wanted with
  | text field => cases field <;> simp [fieldName, param, TextField.fieldName]
  | int field => cases field <;> simp [fieldName, param, IntField.fieldName]
  | id field => cases field <;> simp [fieldName, param, IdField.fieldName]

/-- Every field that can be asked for is a field of the schema with the value of the item. -/
theorem mem_members (wanted : Wanted) (item : Inventory) :
    (wanted.fieldName, wanted.stored item) ∈
      (Entity.schema Inventory).members (Entity.toValues item) := by
  simp only [Entity.schema, Entity.toValues, Inventory.schema, Schema.members]
  cases wanted with
  | text field => cases field <;> simp [fieldName, param, stored, FieldKind.encode?, nameField,
      TextField.fieldName, TextField.value]
  | int field => cases field <;> simp [fieldName, param, stored, FieldKind.encode?,
      IntField.fieldName, IntField.value]
  | id field => cases field <;> simp [fieldName, param, stored, IdField.fieldName, IdField.value]

/-- The type of the parameter is a known one. -/
theorem type?_param (wanted : Wanted) : wanted.param.type? = some wanted.type := by
  cases wanted <;> rfl

/-- The parameter has a text to be equal to. -/
theorem equal_param_ne_empty (wanted : Wanted) : wanted.param.equal ≠ "" := by
  cases wanted with
  | text field value given => exact given
  | int field value => exact Text.toString_ne_empty value
  | id field value given => exact value.text_ne_empty

/-- The text of the parameter for an integer writes the integer. -/
theorem equalWord?_param (field : IntField) (value : Int64) :
    (int field value).param.equalWord? = some value := by
  rw [SearchParam.equalWord?, param, Text.readInt64_trim_toString]
  rfl

/-- The parameter is valid. -/
theorem valid_param (wanted : Wanted) : wanted.param.Valid := by
  have hkind : wanted.param.kind ≠ "" := by cases wanted <;> simp [param]
  have hzero : Double.zero.isZero = true := rfl
  have hlimits : ¬ wanted.param.Limited := by
    cases wanted <;> simp [SearchParam.Limited, param, hzero]
  have hequal := wanted.equal_param_ne_empty
  refine ⟨hkind, wanted.fieldName_ne_empty, by simp [hequal, hlimits], fun type htype => ?_⟩
  rw [type?_param] at htype
  obtain rfl := Option.some.inj htype
  cases wanted with
  | text field value given => exact hequal
  | int field value =>
    intro _
    rw [equalWord?_param]
    rfl
  | id field value given => exact hequal

/-- The parameter admits what is stored of an item if the item carries the value. -/
theorem admits_iff (wanted : Wanted) (item : Inventory) :
    wanted.param.Admits wanted.type (wanted.stored item) ↔ wanted.CarriedBy item := by
  cases wanted with
  | text field value given => simp [SearchParam.Admits, type, param, stored, CarriedBy]
  | int field value =>
    have hequal := (int field value).equal_param_ne_empty
    simp [SearchParam.Admits, SearchParam.AdmitsNumber, type, stored, Json.ofInt64, hequal,
      equalWord?_param field value, Json.Number.equalsWord_ofInt64, CarriedBy]
  | id field value given =>
    simp only [type, stored, FieldKind.encode?, CarriedBy]
    by_cases hnil : (field.value item).isNil = true
    · have hne : field.value item ≠ value := fun heq => given (heq ▸ EntityId.isNil_iff.mp hnil)
      simp [hnil, hne, SearchParam.Admits]
    · simp [hnil, SearchParam.Admits, param, EntityId.text_injective.eq_iff]

/-- Parameters that ask for values compile. -/
theorem exists_ofCriteria {criteria : SearchCriteria} {wanted : List Wanted}
    (h : criteria.inventory = wanted.map param) :
    ∃ filter, Filter.ofCriteria criteria = .ok filter := by
  have hvalid : ∀ param ∈ criteria.inventory, param.Valid := by
    rw [h, List.forall_mem_map]
    exact fun value _ => value.valid_param
  exact Filter.exists_addParams hvalid 0 .empty

end Wanted

/-- Whether an item carries each of the values. -/
def Carries (item : Inventory) (wanted : List Wanted) : Prop :=
  ∀ value ∈ wanted, value.CarriedBy item

instance (item : Inventory) (wanted : List Wanted) : Decidable (item.Carries wanted) :=
  inferInstanceAs (Decidable (∀ _ ∈ wanted, _))

/-- A document satisfies the parameters of values in distinct fields if its item carries them. -/
theorem satisfies_iff {wanted : List Wanted} (hnodup : (wanted.map Wanted.fieldName).Nodup)
    {item : Inventory} {doc : Document} (h : Entity.HeldBy item doc) :
    doc.Satisfies (wanted.map Wanted.param) ↔ item.Carries wanted := by
  have hfields : ((wanted.map Wanted.param).map SearchParam.field).Nodup := by
    rwa [List.map_map]
  rw [Document.satisfies_iff_of_nodup hfields, List.forall_mem_map]
  refine forall₂_congr fun value _ => ?_
  have hget : doc.get? value.param.field = value.stored item := h _ (value.mem_members item)
  simp only [value.type?_param, Option.mem_some_iff, forall_eq', hget, value.admits_iff item]

end Inventory

namespace Intake.Sound

variable {service : ReportService} {intake : Intake}

/-- A search in time by values in distinct fields finds the items taken in that carry them. -/
theorem search_eq (h : Sound service intake)
    (hname : Collection.isName service.collections.inventory.toList = true)
    {criteria : SearchCriteria} {wanted : List Inventory.Wanted}
    (hnodup : (wanted.map Inventory.Wanted.fieldName).Nodup)
    (hcriteria : criteria.inventory = wanted.map Inventory.Wanted.param) {options : CallOptions}
    {now : Nat} (supply : KeySupply) (hlive : options.isExpired now = false) :
    (service.searchInventory criteria options).run (Memory.handler supply now) intake.memory =
      (Reporting.orNoResults .searchInventory
        (intake.items.filter fun item => decide (item.Carries wanted)), intake.memory) := by
  have hheld : List.Forall₂ (fun doc item => Entity.HeldBy item doc)
      ((intake.memory.documents service.collections.inventory).filter fun doc =>
        decide (doc.Satisfies criteria.inventory))
      (intake.items.filter fun item => decide (item.Carries wanted)) := by
    refine List.rel_filter ?_ h.held
    intro doc item hitem
    simp only [decide_eq_true_iff, hcriteria]
    exact Inventory.satisfies_iff hnodup hitem
  have hfinite : ∀ item ∈ intake.items.filter fun item => decide (item.Carries wanted),
      Entity.isFinite item = true :=
    fun item hmem => h.finite item (List.mem_filter.mp hmem).1
  obtain ⟨filter, hcompiles⟩ := Inventory.Wanted.exists_ofCriteria hcriteria
  rw [service.searchInventory_memory supply intake.memory hname hlive hcompiles,
    Reporting.answer_of_ofDocuments (Entity.ofDocuments_eq_ok_of_heldBy hheld hfinite)]

end Intake.Sound

namespace ReportService

/-- After any ingest calls to an empty store a search without parameters finds the inventory items
taken in, in their order and with the keys that the calls returned, and a search by values in
distinct fields finds those that carry the values. No such search fails because of a document, and
every call in time returned one key for each entity. -/
theorem ingestedInventory_searchable (service : ReportService) (supply : KeySupply)
    (calls : List IngestCall)
    (hnames : ∀ name ∈ service.collections.all, Collection.isName name.toList = true)
    (hdistinct : service.collections.all.Nodup)
    (hfinite : ∀ call ∈ calls, ∀ item ∈ call.batch.items, Entity.isFinite item = true) :
    let intake := Intake.empty.run service supply calls
    let search (criteria : SearchCriteria) (options : CallOptions) (now : Nat) :=
      ((service.searchInventory criteria options).run (Memory.handler supply now) intake.memory).1
    (∀ entry ∈ intake.log, entry.call.isExpired = false →
      ∃ keys, entry.result = .ok keys ∧ keys.length = entry.call.batch.size) ∧
    (∀ criteria options now, criteria.inventory = [] → options.isExpired now = false →
      search criteria options now = Reporting.orNoResults .searchInventory intake.items) ∧
    ∀ (wanted : List Inventory.Wanted) (criteria : SearchCriteria) (options : CallOptions)
      (now : Nat), (wanted.map Inventory.Wanted.fieldName).Nodup →
      criteria.inventory = wanted.map Inventory.Wanted.param →
      (options.isExpired now = false → search criteria options now =
        Reporting.orNoResults .searchInventory
          (intake.items.filter fun item => decide (item.Carries wanted))) ∧
      ∀ cause, search criteria options now ≠ .error (.codec cause) := by
  intro intake search
  have hsound : Intake.Sound service intake :=
    Intake.Sound.empty.run supply hnames hdistinct hfinite
  have hname := hnames service.collections.inventory (by simp [Collections.all])
  have hsearch (wanted : List Inventory.Wanted) (criteria : SearchCriteria) (options : CallOptions)
      (now : Nat) (hnodup : (wanted.map Inventory.Wanted.fieldName).Nodup)
      (hcriteria : criteria.inventory = wanted.map Inventory.Wanted.param)
      (hlive : options.isExpired now = false) : search criteria options now =
        Reporting.orNoResults .searchInventory
          (intake.items.filter fun item => decide (item.Carries wanted)) :=
    congrArg Prod.fst (hsound.search_eq hname hnodup hcriteria supply hlive)
  refine ⟨hsound.answered, ?_, ?_⟩
  · intro criteria options now hcriteria hlive
    rw [hsearch [] criteria options now List.nodup_nil hcriteria hlive]
    congr 1
    exact List.filter_eq_self.mpr fun item _ => rfl
  · intro wanted criteria options now hnodup hcriteria
    refine ⟨hsearch wanted criteria options now hnodup hcriteria, fun cause hcodec => ?_⟩
    cases hlive : options.isExpired now with
    | false =>
      rw [hsearch wanted criteria options now hnodup hcriteria hlive] at hcodec
      exact Reporting.orNoResults_ne_codec _ _ cause hcodec
    | true =>
      obtain ⟨filter, hcompiles⟩ := Inventory.Wanted.exists_ofCriteria hcriteria
      have hrefused := service.searchInventory_expired supply intake.memory hlive hcompiles
      rw [show search criteria options now = _ from congrArg Prod.fst hrefused] at hcodec
      cases hcodec

/-- Of two batches with kiwis, taken in among other calls, a search for kiwis finds both kiwis with
the keys that they were given, but neither the mango nor the batch that came too late. -/
theorem ingestedInventory_searchable_kiwis :
    let kiwi : Inventory := { itemId := ⟨1⟩, name := "Kiwi", upc := -7 }
    let supply : KeySupply := fun issued => if issued = 1 then ⟨"first"⟩ else ⟨"later"⟩
    let calls : List IngestCall := [⟨.metrics [{}], .unbounded, 0⟩,
      ⟨.inventory [kiwi, { kiwi with name := "Mango" }], .unbounded, 1⟩,
      ⟨.inventory [{ kiwi with lot := "L" }], .withTimeout 1 1, 2⟩,
      ⟨.inventory [{ kiwi with key := some ⟨"own"⟩ }], .unbounded, 3⟩]
    let wanted : List Inventory.Wanted :=
      [.text .name "Kiwi" (by decide), .int .upc (-7), .id .itemId ⟨1⟩ (by decide)]
    let criteria := SearchCriteria.empty.insert "inventory" (wanted.map Inventory.Wanted.param)
    let service : ReportService := {}
    (∀ name ∈ service.collections.all, Collection.isName name.toList = true) ∧
      service.collections.all.Nodup ∧
      (∀ call ∈ calls, ∀ item ∈ call.batch.items, Entity.isFinite item = true) ∧
      (wanted.map Inventory.Wanted.fieldName).Nodup ∧
      ((service.searchInventory criteria .unbounded).run (Memory.handler supply 4)
        (Intake.empty.run service supply calls).memory).1 =
          .ok [{ kiwi with key := some ⟨"first"⟩ }, { kiwi with key := some ⟨"own"⟩ }] := by
  intro kiwi supply calls wanted criteria service
  have hnames : ∀ name ∈ service.collections.all, Collection.isName name.toList = true := by decide
  have hdistinct : service.collections.all.Nodup := by decide
  have hfinite : ∀ call ∈ calls, ∀ item ∈ call.batch.items, Entity.isFinite item = true := by
    decide
  have hnodup : (wanted.map Inventory.Wanted.fieldName).Nodup := by decide
  refine ⟨hnames, hdistinct, hfinite, hnodup, ?_⟩
  have hsearch := ((ingestedInventory_searchable service supply calls hnames hdistinct
    hfinite).2.2 wanted criteria .unbounded 4 hnodup rfl).1 rfl
  exact hsearch.trans (by decide)

end ReportService

end Stockroom
