import Stockroom.Proofs.ForeignKeys
import Stockroom.Proofs.Searching

/-!
# Joined searches

A joined search finds the metrics or the devices of inventory records. Against the store in memory
it selects exactly the joined documents, and if every record counts, only the set of keys matters:
the order of the records, repeated records and records with a nil key do not.
-/

namespace Stockroom

namespace ReportService

/-- What a joined search answers when the store holds the given documents. -/
def joinedAnswer (α : Type) [Entity α] (service : ReportService) (operation : Operation)
    (field : String) (keys : List EntityId) (docs : List Document) :
    Except ReportError (List α) :=
  Reporting.answer α operation
    (docs.filter fun doc => decide (service.join.Selects field keys doc))

/-- One list of records holds those of another in any order, some of them repeated, and otherwise
only records whose key is nil. -/
def Pads (keyOf : Inventory → EntityId) (others inventory : List Inventory) : Prop :=
  ∃ extra, (∀ item ∈ extra, keyOf item = .nil ∨ item ∈ inventory) ∧
    others.Perm (extra ++ inventory)

/-- Padding a list of records brings no key in and loses none, the nil key apart. -/
theorem Pads.mem_keys_iff {keyOf : Inventory → EntityId} {others inventory : List Inventory}
    (h : Pads keyOf others inventory) (key : EntityId) (hne : key ≠ .nil) :
    key ∈ inventory.map keyOf ↔ key ∈ others.map keyOf := by
  obtain ⟨extra, hextra, hperm⟩ := h
  simp only [List.mem_map, hperm.mem_iff, List.mem_append]
  constructor
  · rintro ⟨item, hmem, hkey⟩
    exact ⟨item, Or.inr hmem, hkey⟩
  · rintro ⟨item, hmem | hmem, hkey⟩
    · rcases hextra item hmem with hnil | hold
      · exact absurd (hkey ▸ hnil) hne
      · exact ⟨item, hold, hkey⟩
    · exact ⟨item, hmem, hkey⟩

/-- If every record counts, padding the records changes no joined answer. -/
theorem joinedAnswer_of_pads {α : Type} [Entity α] {service : ReportService}
    (hjoin : service.join = .allRecords) {keyOf : Inventory → EntityId}
    {others inventory : List Inventory} (h : Pads keyOf others inventory) (operation : Operation)
    (field : String) (docs : List Document) :
    service.joinedAnswer α operation field (others.map keyOf) docs =
      service.joinedAnswer α operation field (inventory.map keyOf) docs := by
  have hselects (doc : Document) : service.join.Selects field (others.map keyOf) doc ↔
      service.join.Selects field (inventory.map keyOf) doc := by
    rw [hjoin]
    exact (ForeignKeyJoin.selects_allRecords_congr h.mem_keys_iff field doc).symm
  simp only [joinedAnswer, hselects]

/-- Without a key other than nil, all records together select nothing. -/
theorem joinedAnswer_of_nil {α : Type} [Entity α] {service : ReportService}
    (hjoin : service.join = .allRecords) {keys : List EntityId} (hnil : ∀ key ∈ keys, key = .nil)
    (operation : Operation) (field : String) (docs : List Document) :
    service.joinedAnswer α operation field keys docs = .error (.noResults operation) := by
  have hnone : docs.filter (fun doc => decide (service.join.Selects field keys doc)) = [] := by
    simp only [List.filter_eq_nil_iff, decide_eq_true_iff, hjoin]
    rintro doc - ⟨key, hmem, hne, -⟩
    exact hne (hnil key hmem)
  rw [joinedAnswer, hnone]
  rfl

/-- Without records the last record selects everything. -/
theorem joinedAnswer_empty {α : Type} [Entity α] {service : ReportService}
    (hjoin : service.join = .lastRecord) (operation : Operation) (field : String)
    (docs : List Document) :
    service.joinedAnswer α operation field [] docs = Reporting.answer α operation docs := by
  have hall : docs.filter (fun doc => decide (service.join.Selects field [] doc)) = docs := by
    simp [hjoin, ForeignKeyJoin.Selects]
  rw [joinedAnswer, hall]

/-- With the store in memory a search by the filter of a join gives the joined answer. -/
theorem findEntities_join {α : Type} [Entity α] (service : ReportService) (operation : Operation)
    {collection : String} (field : String) (keys : List EntityId) {options : CallOptions}
    {now : Nat} (supply : KeySupply) (memory : Memory)
    (hname : Collection.isName collection.toList = true)
    (hlive : options.isExpired now = false) :
    (findEntities α operation collection (service.join.filter field keys) options).run
        (Memory.handler supply now) memory =
      (service.joinedAnswer α operation field keys (memory.documents collection), memory) := by
  have haccepts : (service.join.filter field keys).accepts =
      fun doc => decide (service.join.Selects field keys doc) := by
    funext doc
    rw [Bool.eq_iff_iff, decide_eq_true_iff]
    exact ForeignKeyJoin.accepts_filter service.join field keys doc
  rw [findEntities_memory operation _ supply memory hname hlive, haccepts, joinedAnswer]

/-- The filter of all records lists the first occurrences of their keys. -/
theorem exists_filter_allRecords {join : ForeignKeyJoin} (hjoin : join = .allRecords)
    (field : String) (keys : List EntityId) :
    ∃ distinct, ForeignKeyJoin.FirstOccurrences keys distinct ∧
      join.filter field keys = ⟨[(field, .oneOf (distinct.map fun key => .text key.text))]⟩ :=
  ⟨_, ForeignKeyJoin.firstOccurrences_distinctKeys keys, hjoin ▸ rfl⟩

/-- The joined searches select exactly the joined documents, in the order of their insertion. If
every record counts, padding the records changes nothing, records without keys select nothing, and
the filter lists each key once in the order of its first occurrence. If the last record counts, no
records select everything. -/
theorem joinedSearches_exact (service : ReportService) (options : CallOptions) (now : Nat)
    (supply : KeySupply) (memory : Memory)
    (hmetric : Collection.isName service.collections.metric.toList = true)
    (hdevice : Collection.isName service.collections.device.toList = true)
    (hlive : options.isExpired now = false) :
    let metrics (inventory : List Inventory) :=
      (service.searchMetrics inventory options).run (Memory.handler supply now) memory
    let devices (inventory : List Inventory) :=
      (service.searchDevices inventory options).run (Memory.handler supply now) memory
    (∀ inventory,
      metrics inventory = (service.joinedAnswer Metric .searchMetrics "item_id"
        (inventory.map Inventory.itemId) (memory.documents service.collections.metric), memory) ∧
      devices inventory = (service.joinedAnswer Device .searchDevices "device_id"
        (inventory.map Inventory.deviceId) (memory.documents service.collections.device),
        memory)) ∧
    (service.join = .allRecords → ∀ inventory,
      (∀ others, Pads Inventory.itemId others inventory → metrics others = metrics inventory) ∧
      (∀ others, Pads Inventory.deviceId others inventory →
        devices others = devices inventory) ∧
      ((∀ item ∈ inventory, item.itemId = .nil) →
        (metrics inventory).1 = .error (.noResults .searchMetrics)) ∧
      ((∀ item ∈ inventory, item.deviceId = .nil) →
        (devices inventory).1 = .error (.noResults .searchDevices)) ∧
      (∃ keys, ForeignKeyJoin.FirstOccurrences (inventory.map Inventory.itemId) keys ∧
        service.metricFilter inventory =
          ⟨[("item_id", .oneOf (keys.map fun key => .text key.text))]⟩) ∧
      ∃ keys, ForeignKeyJoin.FirstOccurrences (inventory.map Inventory.deviceId) keys ∧
        service.deviceFilter inventory =
          ⟨[("device_id", .oneOf (keys.map fun key => .text key.text))]⟩) ∧
    (service.join = .lastRecord →
      (metrics []).1 = Reporting.answer Metric .searchMetrics
        (memory.documents service.collections.metric) ∧
      (devices []).1 = Reporting.answer Device .searchDevices
        (memory.documents service.collections.device)) := by
  intro metrics devices
  have hmetrics (inventory : List Inventory) : metrics inventory =
      (service.joinedAnswer Metric .searchMetrics "item_id" (inventory.map Inventory.itemId)
        (memory.documents service.collections.metric), memory) :=
    service.findEntities_join .searchMetrics "item_id" _ supply memory hmetric hlive
  have hdevices (inventory : List Inventory) : devices inventory =
      (service.joinedAnswer Device .searchDevices "device_id" (inventory.map Inventory.deviceId)
        (memory.documents service.collections.device), memory) :=
    service.findEntities_join .searchDevices "device_id" _ supply memory hdevice hlive
  refine ⟨fun inventory => ⟨hmetrics inventory, hdevices inventory⟩, ?_, ?_⟩
  · intro hjoin inventory
    refine ⟨?_, ?_, ?_, ?_, ?_, ?_⟩
    · intro others hpads
      rw [hmetrics, hmetrics, joinedAnswer_of_pads hjoin hpads]
    · intro others hpads
      rw [hdevices, hdevices, joinedAnswer_of_pads hjoin hpads]
    · intro hnil
      rw [hmetrics]
      exact joinedAnswer_of_nil hjoin (by simpa using hnil) _ _ _
    · intro hnil
      rw [hdevices]
      exact joinedAnswer_of_nil hjoin (by simpa using hnil) _ _ _
    · exact exists_filter_allRecords hjoin "item_id" _
    · exact exists_filter_allRecords hjoin "device_id" _
  · intro hjoin
    rw [hmetrics, hdevices]
    exact ⟨joinedAnswer_empty hjoin _ _ _, joinedAnswer_empty hjoin _ _ _⟩

/-- Of the keys nil, one and one again only one counts, and a metric that names the nil key is not
found. -/
theorem joinedSearches_exact_repeated_key :
    let named (key : EntityId) : Document := ⟨[("item_id", .string key.text)]⟩
    let memory : Memory := ⟨[("metric", [named ⟨2⟩, named ⟨1⟩, named .nil, .empty])], 0⟩
    let inventory : List Inventory := [{ itemId := .nil }, { itemId := ⟨1⟩ }, { itemId := ⟨1⟩ }]
    Collection.isName "metric".toList = true ∧ Collection.isName "device".toList = true ∧
      CallOptions.unbounded.isExpired 0 = false ∧
      (({} : ReportService).searchMetrics inventory .unbounded).run
        (Memory.handler (fun _ => ⟨"k"⟩) 0) memory = (.ok [{ itemId := ⟨1⟩ }], memory) := by
  intro named memory inventory
  have hmetric : Collection.isName "metric".toList = true := by decide
  have hdevice : Collection.isName "device".toList = true := by decide
  refine ⟨hmetric, hdevice, rfl, ?_⟩
  have hexact := ((joinedSearches_exact {} .unbounded 0 (fun _ => ⟨"k"⟩) memory hmetric hdevice
    rfl).1 inventory).1
  exact hexact.trans (by decide)

end ReportService

end Stockroom
