import Stockroom.Proofs.Codec
import Stockroom.Proofs.Rounding
import Stockroom.Reporting.Response

/-!
# Round trips

What is written is read back, except that a double without a JSON form comes back as zero. Reading
is lenient, so many documents stand for one entity; but whatever is read has finite doubles only,
so writing it and reading it again changes nothing.
-/

namespace Stockroom

/-- A text is read as a finite double only. -/
theorem Text.isFinite_of_readFloat? {s : String} {x : Double} (h : readFloat? s = some x) :
    x.isFinite = true :=
  (Option.filter_eq_some_iff.mp h).2

/-- Whatever is read has a JSON form. -/
theorem FieldKind.isFinite_of_decode {kind : FieldKind} {field : String} {found : Json}
    {value : kind.Value} (h : kind.decode field found = .ok value) :
    kind.isFinite value = true := by
  cases kind with
  | float =>
    cases found with
    | number n =>
      obtain rfl := Except.ok.inj h
      exact n.isFinite_toDouble
    | string s =>
      rw [decode] at h
      cases hread : Text.readFloat? s with
      | none =>
        rw [hread] at h
        cases h
      | some x =>
        rw [hread] at h
        obtain rfl := Except.ok.inj h
        exact Text.isFinite_of_readFloat? hread
    | _ => cases h
  | _ => rfl

/-- Whatever is read from a field has a JSON form. -/
theorem Document.isFinite_of_read {doc : Document} {kind : FieldKind} {name : String}
    {value : kind.Value} (h : doc.read kind name = .ok value) : kind.isFinite value = true := by
  rw [read] at h
  split at h
  case h_1 =>
    obtain rfl := Except.ok.inj h
    cases kind <;> rfl
  case h_2 => exact FieldKind.isFinite_of_decode h

/-- Whatever is read for the fields of a schema has JSON forms. -/
theorem Schema.isFinite_of_decode {schema : Schema} {doc : Document} {values : schema.Values}
    (h : schema.decode doc = .ok values) : schema.isFinite values = true := by
  induction schema with
  | nil => rfl
  | cons field rest ih =>
    obtain ⟨value, values⟩ := values
    obtain ⟨hvalue, hvalues⟩ := decode_cons_eq_ok_iff.mp h
    exact Bool.and_eq_true_iff.mpr ⟨Document.isFinite_of_read hvalue, ih hvalues⟩

namespace Entity

variable {α : Type} [Entity α]

/-- The doubles of an entity that was read have JSON forms. -/
theorem isFinite_of_ofDocument {doc : Document} {entity : α} (h : ofDocument doc = .ok entity) :
    isFinite entity = true :=
  Schema.isFinite_of_decode (ofDocument_eq_ok_iff.mp h)

/-- An entity that is written and read is its finite part. -/
theorem ofDocument_toDocument (entity : α) :
    ofDocument (toDocument entity) = .ok (finitePart entity) :=
  (heldBy_toDocument entity).ofDocument_eq_ok

/-- An entity that was read stays the same when it is written and read again. -/
theorem ofDocument_toDocument_of_ofDocument {doc : Document} {entity : α}
    (h : ofDocument doc = .ok entity) : ofDocument (toDocument entity) = .ok entity := by
  rw [ofDocument_toDocument, finitePart_eq_self (isFinite_of_ofDocument h)]

/-- An entity that goes through its JSON form is its finite part. -/
theorem decode_toJson (entity : α) : decode (toJson entity) = .ok (finitePart entity) := by
  change (ofDocument (toDocument entity)).mapError Json.DecodeError.codec = _
  rw [ofDocument_toDocument]
  rfl

/-- Entities whose doubles have JSON forms stay as they are. -/
theorem map_finitePart_eq_self {entities : List α} (h : entities.all isFinite = true) :
    entities.map finitePart = entities :=
  calc
    entities.map finitePart = entities.map id :=
      List.map_congr_left fun entity hmem => finitePart_eq_self (List.all_eq_true.mp h entity hmem)
    _ = entities := List.map_id entities

/-- Entities that go through their JSON forms are their finite parts. -/
theorem decodeList_sideToJson (entities : List α) :
    Json.decodeList decode (ReportResponse.sideToJson entities) =
      .ok (entities.map finitePart) := by
  rw [ReportResponse.sideToJson, Json.decodeList]
  induction entities with
  | nil => rfl
  | cons entity rest ih =>
    rw [List.map_cons, List.mapM_cons, decode_toJson, ih]
    rfl

/-- A side that goes through its JSON form stays absent or has its finite parts. -/
theorem decodeOption_optionalSideToJson (side : Option (List α)) :
    Json.decodeOption (Json.decodeList decode) (ReportResponse.optionalSideToJson side) =
      .ok (side.map (List.map finitePart)) := by
  cases side with
  | none => rfl
  | some entities =>
    change (Json.decodeList decode (ReportResponse.sideToJson entities)).map some = _
    rw [decodeList_sideToJson]
    rfl

/-- The document as its entity would write it. -/
def normalize (α : Type) [Entity α] (doc : Document) : Except CodecError Document :=
  (ofDocument doc : Except CodecError α).map toDocument

/-- A document in the form that its entity writes is already in that form. -/
theorem normalize_normalize {doc normal : Document} (h : normalize α doc = .ok normal) :
    normalize α normal = .ok normal := by
  cases hread : (ofDocument doc : Except CodecError α) with
  | error cause =>
    rw [normalize, hread] at h
    cases h
  | ok entity =>
    rw [normalize, hread] at h
    obtain rfl := Except.ok.inj h
    rw [normalize, ofDocument_toDocument_of_ofDocument hread]
    rfl

/-- What it means that reading undoes writing. -/
structure RoundTrips (α : Type) [Entity α] : Prop where
  document : ∀ entity : α, ofDocument (toDocument entity) = .ok (finitePart entity)
  json : ∀ entity : α, decode (toJson entity) = .ok (finitePart entity)
  finite : ∀ entity : α, isFinite entity = true → finitePart entity = entity
  finite_of_read : ∀ doc (entity : α), ofDocument doc = .ok entity → isFinite entity = true
  read_again : ∀ doc (entity : α), ofDocument doc = .ok entity →
    ofDocument (toDocument entity) = .ok entity
  normal : ∀ doc normal, normalize α doc = .ok normal → normalize α normal = .ok normal

/-- For all entities reading undoes writing. -/
theorem roundTrips (α : Type) [Entity α] : RoundTrips α where
  document := ofDocument_toDocument
  json := decode_toJson
  finite _ := finitePart_eq_self
  finite_of_read _ _ := isFinite_of_ofDocument
  read_again _ _ := ofDocument_toDocument_of_ofDocument
  normal _ _ := normalize_normalize

end Entity

namespace ReportResponse

/-- Whether all doubles of a response have JSON forms. -/
def isFinite (response : ReportResponse) : Bool :=
  response.inventory.all Entity.isFinite && (response.metric.getD []).all Entity.isFinite &&
    (response.device.getD []).all Entity.isFinite

/-- The response, zero in place of each double without a JSON form. -/
def finitePart (response : ReportResponse) : ReportResponse where
  inventory := response.inventory.map Entity.finitePart
  metric := response.metric.map (List.map Entity.finitePart)
  device := response.device.map (List.map Entity.finitePart)

/-- A response that goes through its JSON form is its finite part. -/
theorem decode_toJson (response : ReportResponse) :
    decode response.toJson = .ok response.finitePart := by
  have hinventory : form.member? "inventory" = some .inventory := by decide
  have hmetric : form.member? "metric" = some .metric := by decide
  have hdevice : form.member? "device" = some .device := by decide
  rw [decode, toJson, Json.RecordForm.decode, Json.RecordForm.ofObject]
  simp only [List.foldlM_cons, Json.RecordForm.absorbNamed, hinventory, hmetric, hdevice]
  simp only [form, Draft.absorb, Json.fill, Entity.decodeList_sideToJson,
    Entity.decodeOption_optionalSideToJson]
  rfl

/-- A response whose doubles have JSON forms stays as it is. -/
theorem finitePart_eq_self {response : ReportResponse} (h : response.isFinite = true) :
    response.finitePart = response := by
  obtain ⟨inventory, metric, device⟩ := response
  simp only [isFinite, Bool.and_eq_true] at h
  obtain ⟨⟨hinventory, hmetric⟩, hdevice⟩ := h
  have hmetrics : metric.map (List.map Entity.finitePart) = metric := by
    cases metric with
    | none => rfl
    | some readings => exact congrArg some (Entity.map_finitePart_eq_self hmetric)
  have hdevices : device.map (List.map Entity.finitePart) = device := by
    cases device with
    | none => rfl
    | some units => exact congrArg some (Entity.map_finitePart_eq_self hdevice)
  rw [finitePart, Entity.map_finitePart_eq_self hinventory, hmetrics, hdevices]

end ReportResponse

/-- For each kind of entities reading undoes writing, and a response whose doubles have JSON forms
is read back from its own JSON form. -/
theorem codecs_roundTrip :
    Entity.RoundTrips Inventory ∧ Entity.RoundTrips Metric ∧ Entity.RoundTrips Device ∧
      Entity.RoundTrips Report ∧ Entity.RoundTrips ProductWeights ∧
      ∀ response : ReportResponse, response.isFinite = true →
        ReportResponse.decode response.toJson = .ok response := by
  refine ⟨Entity.roundTrips _, Entity.roundTrips _, Entity.roundTrips _, Entity.roundTrips _,
    Entity.roundTrips _, fun response hfinite => ?_⟩
  rw [ReportResponse.decode_toJson, ReportResponse.finitePart_eq_self hfinite]

/-- An item differs from its finite part in its prices and weights only. -/
example (item : Inventory) :
    Entity.finitePart item =
      { item with
        price := item.price.finitePart
        salePrice := item.salePrice.finitePart
        totalWeight := item.totalWeight.finitePart
        soldWeight := item.soldWeight.finitePart
        wasteWeight := item.wasteWeight.finitePart
        donateWeight := item.donateWeight.finitePart } := rfl

/-- A document with a key object, a braced identifier, numbers in texts and a `null` is read as an
item that is read again, alone and in a response with an empty side and an absent one. -/
theorem codecs_roundTrip_lenient :
    let doc : Document := ⟨[("_id", .object [("$oid", .string "a1")]),
      ("item_id", .string "\x7b00000000-0000-0000-0000-000000000001\x7d"), ("name", .null),
      ("upc", .string "7"), ("price", .string " 2 ")]⟩
    let item : Inventory :=
      { key := some ⟨"a1"⟩, itemId := ⟨1⟩, upc := 7, price := Double.ofInt 2 }
    let response : ReportResponse := ⟨[item], some [], none⟩
    Entity.ofDocument doc = .ok item ∧ Entity.ofDocument (Entity.toDocument item) = .ok item ∧
      response.isFinite = true ∧ ReportResponse.decode response.toJson = .ok response := by
  intro doc item response
  obtain ⟨hinventory, -, -, -, -, hresponse⟩ := codecs_roundTrip
  have hread : Entity.ofDocument doc = .ok item := by decide +kernel
  have hfinite : response.isFinite = true := by decide +kernel
  exact ⟨hread, hinventory.read_again doc item hread, hfinite, hresponse response hfinite⟩

end Stockroom
