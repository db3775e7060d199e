import Stockroom.Proofs.CombinedReports
import Stockroom.Proofs.JoinedSearches

/-!
# Joins and the spelling of identifiers

The codec reads an identifier from any of its spellings, and a join compares stored texts with the
text in which a key is written. Main statement: of the entities that belong to inventory a joined
search finds exactly those whose documents spell the identifier as it is written, so that it agrees
with the codec on all documents that do.
-/

namespace Stockroom

/-- Of documents that are read as entities, a choice of documents is read as the same choice of
entities. -/
theorem Entity.ofDocuments_filter {α : Type} [Entity α] {docs : List Document} {entities : List α}
    (hread : ofDocuments docs = .ok entities) (chosen : Document → Bool)
    (wanted : Document × α → Bool)
    (h : ∀ doc entity, ofDocument doc = .ok entity → chosen doc = wanted (doc, entity)) :
    ofDocuments (docs.filter chosen) = .ok (((docs.zip entities).filter wanted).map Prod.snd) := by
  rw [ofDocuments_eq_ok_iff] at hread ⊢
  induction hread with
  | nil => exact .nil
  | @cons doc entity _ _ hhead _ ih =>
    rw [List.zip_cons_cons, List.filter_cons, List.filter_cons, h doc entity hhead]
    split
    case isTrue => exact .cons hhead ih
    case isFalse => exact ih

namespace ReportSide

variable {α : Type} [Entity α]

/-- Whether an entity belongs to inventory: its identifier is the key of an item and not nil. -/
def BelongsTo (side : ReportSide α) (inventory : List Inventory) (entity : α) : Prop :=
  side.joinedKey entity ≠ .nil ∧ side.joinedKey entity ∈ inventory.map side.keyOf

instance (side : ReportSide α) (inventory : List Inventory) (entity : α) :
    Decidable (side.BelongsTo inventory entity) :=
  inferInstanceAs (Decidable (_ ∧ _))

/-- The entities of documents that belong to inventory and whose documents hold the identifier as it
is written. -/
def joined (side : ReportSide α) (inventory : List Inventory) (docs : List Document)
    (entities : List α) : List α :=
  ((docs.zip entities).filter fun (doc, entity) => decide
    (side.BelongsTo inventory entity ∧ doc.Writes side.field (side.joinedKey entity))).map Prod.snd

/-- If all identifiers that belong to inventory are held as they are written, no entity is passed
over. -/
theorem joined_eq_filter (side : ReportSide α) {inventory : List Inventory} {docs : List Document}
    {entities : List α} (hread : Entity.ofDocuments docs = .ok entities)
    (hwrites : ∀ entry ∈ docs.zip entities, side.BelongsTo inventory entry.2 →
      entry.1.Writes side.field (side.joinedKey entry.2)) :
    side.joined inventory docs entities =
      entities.filter fun entity => decide (side.BelongsTo inventory entity) := by
  have hlength : entities.length ≤ docs.length :=
    Nat.le_of_eq (Entity.ofDocuments_eq_ok_iff.mp hread).length_eq.symm
  have hsame : (docs.zip entities).filter (fun (doc, entity) => decide
        (side.BelongsTo inventory entity ∧ doc.Writes side.field (side.joinedKey entity))) =
      (docs.zip entities).filter fun entry => decide (side.BelongsTo inventory entry.2) :=
    List.filter_congr fun entry hmem =>
      decide_eq_decide.mpr (and_iff_left_of_imp (hwrites entry hmem))
  calc side.joined inventory docs entities
      = ((docs.zip entities).filter fun entry =>
          decide (side.BelongsTo inventory entry.2)).map Prod.snd := by rw [joined, hsame]
    _ = ((docs.zip entities).map Prod.snd).filter fun entity =>
          decide (side.BelongsTo inventory entity) := by rw [List.filter_map]; rfl
    _ = entities.filter fun entity => decide (side.BelongsTo inventory entity) := by
        rw [List.map_snd_zip hlength]

/-- If every record counts, a search for what is joined to inventory finds the joined entities. -/
theorem findEntities_joined (side : ReportSide α) {service : ReportService}
    (hjoin : service.join = .allRecords) (inventory : List Inventory) {options : CallOptions}
    {now : Nat} (supply : KeySupply) {memory : Memory}
    (hname : Collection.isName (side.collection service.collections).toList = true)
    (hlive : options.isExpired now = false) {entities : List α}
    (hread : Entity.ofDocuments (memory.documents (side.collection service.collections)) =
      .ok entities) :
    (ReportService.findEntities α side.operation (side.collection service.collections)
        (service.join.filter side.field (inventory.map side.keyOf)) options).run
        (Memory.handler supply now) memory =
      (Reporting.orNoResults side.operation (side.joined inventory
        (memory.documents (side.collection service.collections)) entities), memory) := by
  have hselected := Entity.ofDocuments_filter hread
    (fun doc => decide (service.join.Selects side.field (inventory.map side.keyOf) doc))
    (fun (doc, entity) => decide
      (side.BelongsTo inventory entity ∧ doc.Writes side.field (side.joinedKey entity)))
    fun doc entity hdoc => by
      rw [hjoin]
      exact decide_eq_decide.mpr (ForeignKeyJoin.selects_allRecords_of_read
        (side.read_joinedKey doc entity hdoc) _)
  rw [service.findEntities_join side.operation side.field _ supply memory hname hlive,
    ReportService.joinedAnswer, Reporting.answer_of_ofDocuments hselected]
  rfl

end ReportSide

namespace ReportService

/-- If every record counts and all documents are read as entities, the joined searches find exactly
the entities that belong to the inventory and whose documents hold the identifier as it is written,
in the order of their insertion. If the documents of all entities that belong to it do, they find
all of these. -/
theorem joinedSearches_spelling (service : ReportService) (options : CallOptions) (now : Nat)
    (supply : KeySupply) (memory : Memory) (hjoin : service.join = .allRecords)
    (hlive : options.isExpired now = false) :
    (Collection.isName service.collections.metric.toList = true →
      ∀ metrics, Entity.ofDocuments (memory.documents service.collections.metric) = .ok metrics →
      ∀ inventory,
        let docs := memory.documents service.collections.metric
        let found := ReportSide.metric.joined inventory docs metrics
        (service.searchMetrics inventory options).run (Memory.handler supply now) memory =
          (Reporting.orNoResults .searchMetrics found, memory) ∧
        ((∀ entry ∈ docs.zip metrics, ReportSide.metric.BelongsTo inventory entry.2 →
            entry.1.Writes "item_id" entry.2.itemId) →
          found = metrics.filter fun metric =>
            decide (ReportSide.metric.BelongsTo inventory metric))) ∧
    (Collection.isName service.collections.device.toList = true →
      ∀ devices, Entity.ofDocuments (memory.documents service.collections.device) = .ok devices →
      ∀ inventory,
        let docs := memory.documents service.collections.device
        let found := ReportSide.device.joined inventory docs devices
        (service.searchDevices inventory options).run (Memory.handler supply now) memory =
          (Reporting.orNoResults .searchDevices found, memory) ∧
        ((∀ entry ∈ docs.zip devices, ReportSide.device.BelongsTo inventory entry.2 →
            entry.1.Writes "device_id" entry.2.deviceId) →
          found = devices.filter fun device =>
            decide (ReportSide.device.BelongsTo inventory device))) := by
  constructor
  · intro hmetric metrics hread inventory docs found
    exact ⟨ReportSide.metric.findEntities_joined hjoin inventory supply hmetric hlive hread,
      ReportSide.metric.joined_eq_filter hread⟩
  · intro hdevice devices hread inventory docs found
    exact ⟨ReportSide.device.findEntities_joined hjoin inventory supply hdevice hlive hread,
      ReportSide.device.joined_eq_filter hread⟩

/-- Of three readings of one item and a reading of none, the one whose document writes the
identifier with hyphens and in lower case is found. The device of the item is found, as the document
of a device without an identifier, which belongs to no item, need not write it. -/
theorem joinedSearches_spelling_mixed :
    let id : EntityId := ⟨0xab⟩
    let held (field text : String) : Document := ⟨[(field, .string text)]⟩
    let metricDocs : List Document :=
      [held "item_id" "000000000000000000000000000000AB", held "item_id" id.text,
        held "item_id" " 00000000-0000-0000-0000-0000000000aB", .empty]
    let deviceDocs : List Document := [.empty, held "device_id" id.text]
    let memory : Memory := ⟨[("device", deviceDocs), ("metric", metricDocs)], 0⟩
    let metrics : List Metric := [{ itemId := id }, { itemId := id }, { itemId := id }, {}]
    let devices : List Device := [{}, { deviceId := id }]
    let inventory : List Inventory := [{ itemId := .nil }, { itemId := id, deviceId := id }]
    Collection.isName "metric".toList = true ∧ Collection.isName "device".toList = true ∧
      CallOptions.unbounded.isExpired 0 = false ∧
      Entity.ofDocuments metricDocs = .ok metrics ∧ Entity.ofDocuments deviceDocs = .ok devices ∧
      (({} : ReportService).searchMetrics inventory .unbounded).run
        (Memory.handler (fun _ => ⟨"k"⟩) 0) memory = (.ok [{ itemId := id }], memory) ∧
      (({} : ReportService).searchDevices inventory .unbounded).run
        (Memory.handler (fun _ => ⟨"k"⟩) 0) memory = (.ok [{ deviceId := id }], memory) := by
  intro id held metricDocs deviceDocs memory metrics devices inventory
  have hmetric : Collection.isName "metric".toList = true := by decide
  have hdevice : Collection.isName "device".toList = true := by decide
  have hmetrics : Entity.ofDocuments metricDocs = .ok metrics := by decide +kernel
  have hdevices : Entity.ofDocuments deviceDocs = .ok devices := by decide +kernel
  have hspelling := joinedSearches_spelling {} .unbounded 0 (fun _ => ⟨"k"⟩) memory rfl rfl
  have hfound := (hspelling.1 hmetric metrics hmetrics inventory).1
  obtain ⟨hdeviceRun, hall⟩ := hspelling.2 hdevice devices hdevices inventory
  refine ⟨hmetric, hdevice, rfl, hmetrics, hdevices, hfound.trans (by decide +kernel), ?_⟩
  have hwritten : ∀ entry ∈ deviceDocs.zip devices,
      ReportSide.device.BelongsTo inventory entry.2 →
        entry.1.Writes "device_id" entry.2.deviceId := by decide +kernel
  rw [hall hwritten] at hdeviceRun
  exact hdeviceRun.trans (by decide +kernel)

/-- A metric of an item of the inventory is not found if its document holds the identifier in upper
case. -/
theorem joinedSearches_miss_upper_case :
    let doc : Document := ⟨[("item_id", .string "00000000-0000-0000-0000-0000000000AB")]⟩
    let metric : Metric := { itemId := ⟨0xab⟩ }
    let inventory : List Inventory := [{ itemId := ⟨0xab⟩ }]
    Entity.ofDocument doc = .ok metric ∧ metric.itemId ≠ .nil ∧
      metric.itemId ∈ inventory.map Inventory.itemId ∧
      ((({} : ReportService).searchMetrics inventory .unbounded).run
        (Memory.handler (fun _ => ⟨"k"⟩) 0) ⟨[("metric", [doc])], 0⟩).1 =
          .error (.noResults .searchMetrics) := by
  decide +kernel

end ReportService

end Stockroom
