import Mathlib.Data.Finset.Card
import Stockroom.Proofs.BatchInsertion
import Stockroom.Proofs.ForeignKeys
import Stockroom.Proofs.Ingest

/-!
# How many values statements bind

A call makes one statement, however many records it is about. Main statement: in a join of all
records the statement binds two values for each distinct key, and that of a batch one value for each
record. The protocol of the server counts the values of a statement in sixteen bits, so 32767 keys
and 65535 records are the most that a statement can be about.
-/

namespace Stockroom

namespace ForeignKeyJoin

/-- The number of distinct identifiers, the nil one left out. -/
def keyCount (keys : List EntityId) : Nat :=
  (keys.toFinset.erase .nil).card

/-- A join of all records looks for as many keys as there are. -/
theorem length_distinctKeys (keys : List EntityId) :
    (distinctKeys keys).length = keyCount keys := by
  have hset : (distinctKeys keys).toFinset = keys.toFinset.erase .nil := by
    ext key
    rw [List.mem_toFinset, mem_distinctKeys, Finset.mem_erase, List.mem_toFinset, and_comm]
  rw [keyCount, ← hset, List.toFinset_card_of_nodup (firstOccurrences_distinctKeys keys).nodup]

/-- The identifiers with the first so many numbers after nil count as many. -/
theorem keyCount_numbered {count : Nat} (h : count < 2 ^ 128) :
    keyCount ((List.range count).map fun n => ⟨BitVec.ofNat 128 (n + 1)⟩) = count := by
  -- The numbers stay as they are in 128 bits.
  have hvalue {n : Nat} (hmem : n ∈ List.range count) :
      (BitVec.ofNat 128 (n + 1)).toNat = n + 1 := by
    have hlt := List.mem_range.mp hmem
    rw [BitVec.toNat_ofNat, Nat.mod_eq_of_lt (by omega)]
  have hnodup : ((List.range count).map fun n =>
      (⟨BitVec.ofNat 128 (n + 1)⟩ : EntityId)).Nodup := by
    refine List.nodup_range.map_on fun n hn m hm heq => ?_
    have hsame := congrArg (fun id : EntityId => id.value.toNat) heq
    simp only [hvalue hn, hvalue hm] at hsame
    exact Nat.succ.inj hsame
  have hnil : EntityId.nil ∉ (List.range count).map fun n => ⟨BitVec.ofNat 128 (n + 1)⟩ := by
    intro hmem
    obtain ⟨n, hn, heq⟩ := List.mem_map.mp hmem
    have hzero := congrArg (fun id : EntityId => id.value.toNat) heq
    simp only [hvalue hn] at hzero
    exact absurd hzero (Nat.succ_ne_zero n)
  rw [keyCount, Finset.erase_eq_of_notMem (mt List.mem_toFinset.mp hnil),
    List.toFinset_card_of_nodup hnodup, List.length_map, List.length_range]

end ForeignKeyJoin

namespace Batch

/-- The documents of a batch. -/
def documents : Batch → List Document
  | inventory items => items.map Entity.toDocument
  | metrics readings => readings.map Entity.toDocument
  | devices units => units.map Entity.toDocument
  | reports summaries => summaries.map Entity.toDocument

/-- There is one document for each entity. -/
theorem length_documents (batch : Batch) : batch.documents.length = batch.size := by
  cases batch <;> exact List.length_map ..

/-- Every document of a batch can get a key. -/
theorem exists_allowsKey (batch : Batch) : ∀ doc ∈ batch.documents, ∃ key, doc.AllowsKey key := by
  intro doc hmem
  cases batch with
  | inventory items =>
    obtain ⟨item, -, rfl⟩ := List.mem_map.mp hmem
    exact Schema.exists_allowsKey (Entity.heldBy_toDocument item)
  | metrics readings =>
    obtain ⟨metric, -, rfl⟩ := List.mem_map.mp hmem
    exact Schema.exists_allowsKey (Entity.heldBy_toDocument metric)
  | devices units =>
    obtain ⟨device, -, rfl⟩ := List.mem_map.mp hmem
    exact Schema.exists_allowsKey (Entity.heldBy_toDocument device)
  | reports summaries =>
    obtain ⟨report, -, rfl⟩ := List.mem_map.mp hmem
    exact Schema.exists_allowsKey (Entity.heldBy_toDocument report)

/-- A batch gets its keys, and stays as long as it is. -/
theorem exists_assignKeys (batch : Batch) (supply : KeySupply) (issued : Nat) :
    ∃ keys stored used,
      Document.assignKeys supply issued batch.documents = .ok (keys, stored, used) ∧
      stored.length = batch.size := by
  obtain ⟨keys, used, hassign, -⟩ :=
    Document.assignKeys_eq_ok supply batch.exists_allowsKey issued
  have hkeyed := Document.batchKeyed_of_assignKeys hassign
  exact ⟨keys, _, used, hassign, hkeyed.length_stored.trans batch.length_documents⟩

end Batch

namespace Postgres

open ForeignKeyJoin (keyCount)

/-- The statement of a filter binds the values of its clauses. -/
theorem bindings_selectStatement (table : String) (filter : Filter) :
    (selectStatement table filter).bindings = filterValues filter := by
  have hpieces : (selectStatement table filter).bindings = boundValues (conjunction filter) := by
    rw [selectStatement, ← boundValues, boundValues_append, boundValues_append, boundValues_sql,
      boundValues_sql, List.nil_append, List.append_nil]
  rw [hpieces, (binds_conjunction filter).values_eq]

/-- A join of all records binds the name of the field and the key for each distinct key. -/
theorem length_bindings_join (table field : String) (keys : List EntityId) :
    (selectStatement table (ForeignKeyJoin.allRecords.filter field keys)).bindings.length =
      2 * keyCount keys := by
  have hvalues : filterValues (ForeignKeyJoin.allRecords.filter field keys) =
      (ForeignKeyJoin.distinctKeys keys).flatMap fun key => [.text field, .text key.text] := by
    simp [filterValues, ForeignKeyJoin.filter, Filter.insert, Filter.empty, Entries.put,
      conditionValues, equalityValues, List.flatMap_map]
  rw [bindings_selectStatement, hvalues, ← ForeignKeyJoin.length_distinctKeys]
  simp only [List.length_flatMap, List.length_cons, List.length_nil, List.map_const',
    List.sum_replicate_nat]
  exact Nat.mul_comm _ 2

/-- The statement of a batch binds one value for each document. -/
theorem length_bindings_insertStatement (table : String) (docs : List Document) :
    (insertStatement table docs).bindings.length = docs.length := by
  have hvalues : (insertStatement table docs).bindings = batchValues docs := by
    rw [insertStatement, ← boundValues, boundValues_append, boundValues_sql, List.nil_append,
      (binds_rows docs).values_eq]
  rw [hvalues, batchValues, List.length_map]

/-- In a join of all records the statement binds two values for each distinct key other than nil,
and that of a batch, which always gets its keys, one value for each record. There are at most 65535
values just up to 32767 keys and up to 65535 records. -/
theorem bindings_counted {service : ReportService} (hjoin : service.join = .allRecords)
    (table : String) :
    (∀ inventory : List Inventory,
      let metrics := (selectStatement table (service.metricFilter inventory)).bindings.length
      let devices := (selectStatement table (service.deviceFilter inventory)).bindings.length
      let items := keyCount (inventory.map Inventory.itemId)
      let units := keyCount (inventory.map Inventory.deviceId)
      (metrics = 2 * items ∧ (metrics ≤ 65535 ↔ items ≤ 32767)) ∧
      devices = 2 * units ∧ (devices ≤ 65535 ↔ units ≤ 32767)) ∧
    ∀ (batch : Batch) (supply : KeySupply) (issued : Nat), ∃ keys stored used,
      Document.assignKeys supply issued batch.documents = .ok (keys, stored, used) ∧
      let values := (insertStatement table stored).bindings.length
      values = batch.size ∧ (values ≤ 65535 ↔ batch.size ≤ 65535) := by
  -- Both joins are the one filter over a field and the keys for it.
  have hjoined (field : String) (keys : List EntityId) :
      let values := (selectStatement table (service.join.filter field keys)).bindings.length
      values = 2 * keyCount keys ∧ (values ≤ 65535 ↔ keyCount keys ≤ 32767) := by
    intro values
    have hcount : values = 2 * keyCount keys := by
      rw [← length_bindings_join table field keys, ← hjoin]
    exact ⟨hcount, by omega⟩
  refine ⟨fun inventory => ⟨hjoined _ _, hjoined _ _⟩, fun batch supply issued => ?_⟩
  obtain ⟨keys, stored, used, hassign, hlength⟩ := batch.exists_assignKeys supply issued
  refine ⟨keys, stored, used, hassign, ?_⟩
  intro values
  have hcount : values = batch.size := (length_bindings_insertStatement table stored).trans hlength
  exact ⟨hcount, by rw [hcount]⟩

/-- Two items, one of them twice, and an item without an identifier bind four values, and two
reports bind two. -/
theorem bindings_counted_repeated :
    let service : ReportService := ⟨{}, .allRecords⟩
    let kiwis : Inventory := { itemId := ⟨1⟩ }
    let figs : Inventory := { itemId := ⟨2⟩ }
    let reports : Batch := .reports [{ name := "first" }, { name := "second" }]
    service.join = .allRecords ∧
      (selectStatement "metric" (service.metricFilter [kiwis, figs, kiwis, {}])).bindings.length =
        4 ∧
      ∃ keys stored used,
        Document.assignKeys (fun _ => ⟨"k"⟩) 0 reports.documents = .ok (keys, stored, used) ∧
        (insertStatement "metric" stored).bindings.length = 2 := by
  intro service kiwis figs reports
  obtain ⟨hjoined, hbatches⟩ := bindings_counted (show service.join = .allRecords from rfl) "metric"
  obtain ⟨keys, stored, used, hassign, hcount, -⟩ := hbatches reports (fun _ => ⟨"k"⟩) 0
  exact ⟨rfl, (hjoined [kiwis, figs, kiwis, {}]).1.1, keys, stored, used, hassign, hcount⟩

/-- The statement of a join of 32768 items, and that of a batch of 65536 reports, each bind more
values than can be counted. -/
theorem bindings_uncountable :
    let service : ReportService := ⟨{}, .allRecords⟩
    let inventory : List Inventory :=
      (List.range 32768).map fun n => { itemId := ⟨BitVec.ofNat 128 (n + 1)⟩ }
    let reports : Batch := .reports (List.replicate 65536 {})
    65535 < (selectStatement "metric" (service.metricFilter inventory)).bindings.length ∧
      ∃ keys stored used,
        Document.assignKeys (fun _ => ⟨"k"⟩) 0 reports.documents = .ok (keys, stored, used) ∧
        65535 < (insertStatement "report" stored).bindings.length := by
  intro service inventory reports
  refine ⟨?_, ?_⟩
  · have hkeys : inventory.map Inventory.itemId =
        (List.range 32768).map fun n => ⟨BitVec.ofNat 128 (n + 1)⟩ := List.map_map
    have hjoined := length_bindings_join "metric" Metric.itemIdField.name
      (inventory.map Inventory.itemId)
    rw [hkeys, ForeignKeyJoin.keyCount_numbered (by decide)] at hjoined
    rw [ReportService.metricFilter, hkeys, hjoined]
    decide
  · obtain ⟨keys, stored, used, hassign, hlength⟩ :=
      reports.exists_assignKeys (fun _ => ⟨"k"⟩) 0
    refine ⟨keys, stored, used, hassign, ?_⟩
    rw [length_bindings_insertStatement, hlength, Batch.size, List.length_replicate]
    decide

end Postgres

end Stockroom
