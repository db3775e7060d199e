import Stockroom.Proofs.Codec
import Stockroom.Proofs.Grouping
import Stockroom.Proofs.InventorySearch

/-!
# Weight totals

The weight distribution and the codec read the weights of a document independently. Both take a
number for its double and an absent weight for zero, but only the codec reads numbers in texts. So
the totals of a product are the sums over its items, those weights left out that are stored as
texts.
-/

namespace Stockroom

/-- The weights that are summed, in the order in which the sums of a row are read. -/
inductive Weight
  | total
  | waste
  | sold
  deriving DecidableEq

namespace Weight

/-- All weights in their order. -/
def all : List Weight := [total, waste, sold]

theorem mem_all (weight : Weight) : weight ∈ all := by
  cases weight <;> simp [all]

instance {p : Weight → Prop} [DecidablePred p] : Decidable (∀ weight, p weight) :=
  decidable_of_iff (∀ weight ∈ all, p weight)
    ⟨fun h weight => h weight weight.mem_all, fun h weight _ => h weight⟩

/-- The field that holds a weight. -/
def field : Weight → Field
  | total => Inventory.totalWeightField
  | waste => Inventory.wasteWeightField
  | sold => Inventory.soldWeightField

/-- The weight of an item. -/
def ofItem : Weight → Inventory → Double
  | total, item => item.totalWeight
  | waste, item => item.wasteWeight
  | sold, item => item.soldWeight

/-- The sum of a weight over a group. -/
def sumField (weight : Weight) : SumField :=
  ⟨weight.field.name, weight.field.name⟩

/-- Whether a document holds a weight as a text. -/
def isText (weight : Weight) (doc : Document) : Bool :=
  match doc.get? weight.field.name with
  | some (.string _) => true
  | _ => false

/-- A weight that is a text adds nothing. -/
theorem number?_of_isText {weight : Weight} {doc : Document} (h : weight.isText doc = true) :
    doc.number? weight.sumField.source = none := by
  unfold isText at h
  unfold Document.number? sumField
  split at h
  case h_1 s hget => rw [hget]
  case h_2 => cases h

/-- Another weight adds what it is read as; zero may be added or not. -/
theorem number?_getD_of_read {weight : Weight} {doc : Document} {x : Double}
    (hread : doc.read .float weight.field.name = .ok x) (h : weight.isText doc = false) :
    (doc.number? weight.sumField.source).getD .zero = x := by
  rw [Document.read, Document.present?] at hread
  unfold isText at h
  unfold Document.number? sumField
  cases hget : doc.get? weight.field.name with
  | none =>
    rw [hget] at hread
    exact Except.ok.inj hread
  | some found =>
    rw [hget] at hread h
    cases found with
    | null => exact Except.ok.inj hread
    | number n => exact Except.ok.inj hread
    | string s => cases h
    | bool value => cases hread
    | array items => cases hread
    | object members => cases hread

/-- The field that holds a weight, with the weight of an item. -/
def cell (weight : Weight) (item : Inventory) : Σ field : Field, field.kind.Value :=
  match weight with
  | total => ⟨Inventory.totalWeightField, item.totalWeight⟩
  | waste => ⟨Inventory.wasteWeightField, item.wasteWeight⟩
  | sold => ⟨Inventory.soldWeightField, item.soldWeight⟩

/-- The weights of an item are among its values. -/
theorem cell_mem_cells (weight : Weight) (item : Inventory) :
    weight.cell item ∈ (Entity.schema Inventory).cells (Entity.toValues item) := by
  cases weight <;>
    simp [cell, Entity.schema, Entity.toValues, Inventory.schema, Schema.cells]

/-- The weights of an item are what its document is read as. -/
theorem read_eq_ok {doc : Document} {item : Inventory} (h : Entity.ofDocument doc = .ok item)
    (weight : Weight) : doc.read .float weight.field.name = .ok (weight.ofItem item) := by
  have hread := Schema.read_of_mem_cells (Entity.ofDocument_eq_ok_iff.mp h)
    (weight.cell_mem_cells item)
  cases weight <;> exact hread

end Weight

/-- The name of an item is among its values. -/
theorem Inventory.name_mem_cells (item : Inventory) :
    ⟨nameField, item.name⟩ ∈ (Entity.schema Inventory).cells (Entity.toValues item) := by
  simp [Entity.schema, schema, Entity.toValues, Schema.cells]

/-- The name of an item is the text that its document holds as the name. -/
theorem Inventory.name_eq_of_get? {doc : Document} {item : Inventory}
    (h : Entity.ofDocument doc = .ok item) {name : String}
    (hname : doc.get? nameField.name = some (.string name)) : item.name = name := by
  have hread := Entity.read_of_mem_cells h item.name_mem_cells
  rw [Document.read, Document.present?, hname] at hread
  exact (Except.ok.inj hread).symm

/-- The stage that groups by the name and sums the weights. -/
def weightStage : GroupStage :=
  ⟨Inventory.nameField.name, Weight.all.map Weight.sumField⟩

namespace ProductWeights

/-- The totals of a name. -/
def ofSums (name : String) (sums : Weight → Double) : ProductWeights where
  prodName := name
  prodWeight := .zero
  totalWeight := sums .total
  soldWeight := sums .sold
  wasteWeight := sums .waste
  prodSold := 0

/-- The complaint about a sum that is not finite and thus comes as `null`. -/
def overflow (weight : Weight) : CodecError :=
  .aggregateShapeMismatch weight.field.name .float (some .null)

/-- The first weight whose sum is not finite. -/
def firstOverflow? (sums : Weight → Double) : Option Weight :=
  Weight.all.find? fun weight => !(sums weight).isFinite

/-- All sums are finite if none is found that is not. -/
theorem firstOverflow?_eq_none_iff {sums : Weight → Double} :
    firstOverflow? sums = none ↔ ∀ weight, (sums weight).isFinite = true := by
  simp only [firstOverflow?, List.find?_eq_none, Bool.not_eq_true', Bool.not_eq_false]
  exact ⟨fun h weight => h weight weight.mem_all, fun h weight _ => h weight⟩

/-- A sum is read from a row if it is finite. -/
theorem readGroupSum_ofDouble {row : Document} {field : String} {x : Double}
    (h : row.get? field = some (.ofDouble x)) :
    readGroupSum row field =
      if x.isFinite then .ok x else .error (.aggregateShapeMismatch field .float (some .null)) := by
  rw [readGroupSum, h]
  cases x <;> rfl

/-- The row of a group is read as the totals of its name if all sums are finite. -/
theorem ofGroup_row (name : String) (sums : Weight → Double) :
    ofGroup (weightStage.row ⟨.string name, Weight.all.map sums⟩) =
      match firstOverflow? sums with
      | some weight => .error (overflow weight)
      | none => .ok (ofSums name sums) := by
  generalize hrow : weightStage.row ⟨.string name, Weight.all.map sums⟩ = row
  have hname : readGroupName row = .ok name := by
    rw [← hrow]
    rfl
  have hsum (weight : Weight) : readGroupSum row weight.field.name =
      if (sums weight).isFinite then .ok (sums weight) else .error (overflow weight) := by
    rw [← hrow]
    refine readGroupSum_ofDouble ?_
    cases weight <;> rfl
  have htotal : readGroupSum row "total_weight" = _ := hsum .total
  have hwaste : readGroupSum row "waste_weight" = _ := hsum .waste
  have hsold : readGroupSum row "sold_weight" = _ := hsum .sold
  rw [ofGroup, hname, htotal, hwaste, hsold, firstOverflow?, Weight.all]
  cases htotal : (sums .total).isFinite with
  | false => simp [htotal, bind, Except.bind]
  | true =>
    cases hwaste : (sums .waste).isFinite with
    | false => simp [htotal, hwaste, bind, Except.bind]
    | true =>
      cases hsold : (sums .sold).isFinite with
      | false => simp [htotal, hwaste, hsold, bind, Except.bind]
      | true => simp [htotal, hwaste, hsold, bind, Except.bind, pure, Except.pure, ofSums]

end ProductWeights

/-- An inventory document with the item that it is read as. -/
structure StockedItem where
  doc : Document
  item : Inventory
  read_eq : Entity.ofDocument doc = .ok item
  name_eq : doc.get? Inventory.nameField.name = some (.string item.name)

/-- The key of the document of an item is its name. -/
theorem StockedItem.valueOrNull_doc (entry : StockedItem) :
    entry.doc.valueOrNull weightStage.key = .string entry.item.name := by
  rw [Document.valueOrNull, weightStage, entry.name_eq]
  rfl

/-- Documents with the items that they are read as. -/
abbrev Stock := List StockedItem

namespace Stock

/-- The documents in their order. -/
def docs (stock : Stock) : List Document :=
  stock.map StockedItem.doc

/-- The items in the order of their documents. -/
def items (stock : Stock) : List Inventory :=
  stock.map StockedItem.item

/-- The names of the items, each once, in the order in which they first occur. -/
def names (stock : Stock) : List String :=
  (stock.items.map Inventory.name).eraseDups

/-- The part with a name. -/
def named (stock : Stock) (name : String) : Stock :=
  stock.filter fun entry => entry.item.name == name

/-- The sum of a weight over the items with a name, those left out that store it as a text. -/
def sum (stock : Stock) (name : String) (weight : Weight) : Double :=
  Double.sum (((stock.named name).filter fun entry => !weight.isText entry.doc).map fun entry =>
    weight.ofItem entry.item)

/-- Documents that are read as items and hold their names as texts are stock. -/
theorem exists_docs_eq {docs : List Document}
    (hitems : ∀ doc ∈ docs, ∃ item : Inventory, Entity.ofDocument doc = .ok item)
    (hnamed : ∀ doc ∈ docs, ∃ name, doc.get? Inventory.nameField.name = some (.string name)) :
    ∃ stock : Stock, stock.docs = docs := by
  induction docs with
  | nil => exact ⟨[], rfl⟩
  | cons doc rest ih =>
    obtain ⟨⟨item, hitem⟩, hitems⟩ := List.forall_mem_cons.mp hitems
    obtain ⟨⟨name, hname⟩, hnamed⟩ := List.forall_mem_cons.mp hnamed
    obtain ⟨stock, rfl⟩ := ih hitems hnamed
    obtain rfl := Inventory.name_eq_of_get? hitem hname
    exact ⟨⟨doc, item, hitem, hname⟩ :: stock, rfl⟩

/-- The items are what the documents are read as. -/
theorem ofDocuments_docs (stock : Stock) : Entity.ofDocuments stock.docs = .ok stock.items := by
  rw [Entity.ofDocuments_eq_ok_iff, docs, items, List.forall₂_map_left_iff,
    List.forall₂_map_right_iff, List.forall₂_same]
  exact fun entry _ => entry.read_eq

/-- The documents in the group of a name are those with the name. -/
theorem withKey_docs (stock : Stock) (name : String) :
    weightStage.withKey (.string name) stock.docs = (stock.named name).docs := by
  rw [GroupStage.withKey, docs, List.filter_map]
  refine congrArg (List.map StockedItem.doc) (List.filter_congr fun entry _ => ?_)
  rw [Function.comp_apply, entry.valueOrNull_doc, Bool.eq_iff_iff, decide_eq_true_iff, beq_iff_eq,
    Json.same_string_iff, eq_comm]

/-- The distinct keys of the documents are the names of the items. -/
theorem distinct_keys (stock : Stock) :
    Json.distinct (stock.docs.map (·.valueOrNull weightStage.key)) =
      stock.names.map Json.string := by
  have hkeys : stock.docs.map (·.valueOrNull weightStage.key) =
      (stock.items.map Inventory.name).map Json.string := by
    simp only [docs, items, List.map_map]
    exact List.map_congr_left fun entry _ => entry.valueOrNull_doc
  rw [hkeys, Json.distinct_map_string, names]

/-- A weight summed over documents is the sum of the weights that they are read as, but for those
stored as texts. -/
theorem total_docs (stock : Stock) (weight : Weight) :
    GroupStage.total stock.docs weight.sumField =
      Double.sum ((stock.filter fun entry => !weight.isText entry.doc).map fun entry =>
        weight.ofItem entry.item) := by
  let addend? (entry : StockedItem) : Option Double :=
    entry.doc.number? weight.sumField.source
  -- A text adds nothing, so the documents that hold one can be left out.
  have htexts : stock.docs.filterMap (·.number? weight.sumField.source) =
      (stock.filter fun entry => !weight.isText entry.doc).filterMap addend? := by
    rw [docs, List.filterMap_map, List.filterMap_filter]
    refine List.filterMap_congr fun entry _ => ?_
    cases htext : weight.isText entry.doc with
    | true => exact Weight.number?_of_isText htext
    | false => rfl
  -- An absent weight is read as zero, and a sum that starts from zero does not notice it.
  have hread : ∀ entry ∈ stock.filter fun entry => !weight.isText entry.doc,
      (addend? entry).getD .zero = weight.ofItem entry.item := by
    intro entry hmem
    have htext : weight.isText entry.doc = false := by simpa using (List.mem_filter.mp hmem).2
    exact Weight.number?_getD_of_read (Weight.read_eq_ok entry.read_eq weight) htext
  rw [GroupStage.total, htexts, Double.sum_filterMap, List.map_congr_left hread]

/-- The first weight, in the order in which the rows are read, whose sum is not finite. -/
def firstOverflow? (stock : Stock) : Option Weight :=
  stock.names.findSome? fun name => ProductWeights.firstOverflow? (stock.sum name)

/-- All sums are finite if none is found that is not. -/
theorem firstOverflow?_eq_none_iff {stock : Stock} : stock.firstOverflow? = none ↔
    ∀ name ∈ stock.names, ∀ weight, (stock.sum name weight).isFinite = true := by
  simp only [firstOverflow?, List.findSome?_eq_none_iff, ProductWeights.firstOverflow?_eq_none_iff]

/-- The rows of the weight distribution are those of the names. -/
theorem apply_weightPipeline (stock : Stock) :
    ReportService.weightPipeline.apply stock.docs = stock.names.map fun name =>
      weightStage.row ⟨.string name, Weight.all.map (stock.sum name)⟩ := by
  have hgroup (name : String) : weightStage.groupOf stock.docs (.string name) =
      ⟨.string name, Weight.all.map (stock.sum name)⟩ := by
    rw [GroupStage.groupOf, stock.withKey_docs, weightStage, List.map_map]
    exact congrArg (Group.mk _) (List.map_congr_left fun weight _ => total_docs _ weight)
  change weightStage.apply stock.docs = _
  rw [GroupStage.apply, GroupStage.groups_eq, distinct_keys, List.map_map, List.map_map]
  exact List.map_congr_left fun name _ => congrArg weightStage.row (hgroup name)

/-- The rows are read as the totals of the names, up to the first sum that is not finite. -/
theorem mapM_ofGroup (stock : Stock) :
    (ReportService.weightPipeline.apply stock.docs).mapM ProductWeights.ofGroup =
      match stock.firstOverflow? with
      | some weight => .error (ProductWeights.overflow weight)
      | none => .ok (stock.names.map fun name => .ofSums name (stock.sum name)) := by
  rw [apply_weightPipeline, firstOverflow?]
  generalize stock.names = names
  induction names with
  | nil => rfl
  | cons name rest ih =>
    rw [List.map_cons, List.mapM_cons, ProductWeights.ofGroup_row, ih, List.findSome?_cons]
    cases ProductWeights.firstOverflow? (stock.sum name) with
    | some weight => rfl
    | none =>
      cases rest.findSome? fun name => ProductWeights.firstOverflow? (stock.sum name) <;> rfl

/-- Without weights in texts the sums are those of the items. -/
theorem sum_eq_of_no_text {stock : Stock}
    (h : ∀ entry ∈ stock, ∀ weight : Weight, weight.isText entry.doc = false) (name : String)
    (weight : Weight) : stock.sum name weight =
      Double.sum ((stock.items.filter fun item => item.name == name).map weight.ofItem) := by
  have hall : (stock.named name).filter (fun entry => !weight.isText entry.doc) =
      stock.named name := by
    refine List.filter_eq_self.mpr fun entry hmem => ?_
    rw [h entry (List.mem_filter.mp hmem).1 weight]
    rfl
  rw [sum, hall, named, items, List.filter_map, List.map_map]
  rfl

end Stock

namespace ReportService

/-- With stock in the store the weight distribution has one row for each name, unless a sum is not
finite. -/
theorem weightDistribution_memory (service : ReportService) {options : CallOptions} {now : Nat}
    (supply : KeySupply) {memory : Memory} {stock : Stock}
    (hname : Collection.isName service.collections.inventory.toList = true)
    (hlive : options.isExpired now = false)
    (hstock : stock.docs = memory.documents service.collections.inventory) :
    (service.weightDistribution options).run (Memory.handler supply now) memory =
      (match stock.firstOverflow? with
        | some weight => .error (.codec (ProductWeights.overflow weight))
        | none => .ok (stock.names.map fun name => .ofSums name (stock.sum name)), memory) := by
  rw [Reporting.run, run_weightDistribution]
  simp only [Session.run, Memory.handler, memory.aggregate_eq_ok hlive hname, Reporting.onReply]
  rw [← hstock, stock.mapM_ofGroup]
  cases stock.firstOverflow? <;> rfl

/-- A search without parameters finds all stock. -/
theorem searchInventory_empty (service : ReportService) {options : CallOptions} {now : Nat}
    (supply : KeySupply) {memory : Memory} {stock : Stock}
    (hname : Collection.isName service.collections.inventory.toList = true)
    (hlive : options.isExpired now = false)
    (hstock : stock.docs = memory.documents service.collections.inventory) :
    (service.searchInventory .empty options).run (Memory.handler supply now) memory =
      (Reporting.orNoResults .searchInventory stock.items, memory) := by
  have hcompiles : Filter.ofCriteria .empty = .ok .empty := rfl
  have hall (docs : List Document) : docs.filter Filter.empty.accepts = docs :=
    List.filter_eq_self.mpr fun _ _ => rfl
  have hanswer : Reporting.answer Inventory .searchInventory stock.docs =
      Reporting.orNoResults .searchInventory stock.items :=
    Reporting.answer_of_ofDocuments stock.ofDocuments_docs
  rw [← hanswer, hstock, ← hall (memory.documents _),
    ← findEntities_memory .searchInventory .empty supply memory hname hlive]
  simp only [Reporting.run, run_searchInventory, hcompiles]

/-- If all documents of the inventory are read as items and hold their names as texts, the weight
distribution has one row for each name, in the order in which the names first occur. Its totals are
the sums of the weights of the items with the name in their order, but for weights that are stored
as texts, and it fails only if one of these sums is not finite. Without such texts the sums are
those of the items that a search without parameters finds. -/
theorem weightDistribution_exact (service : ReportService) (options : CallOptions) (now : Nat)
    (supply : KeySupply) (memory : Memory)
    (hname : Collection.isName service.collections.inventory.toList = true)
    (hlive : options.isExpired now = false)
    (hitems : ∀ doc ∈ memory.documents service.collections.inventory,
      ∃ item : Inventory, Entity.ofDocument doc = .ok item)
    (hnamed : ∀ doc ∈ memory.documents service.collections.inventory,
      ∃ name, doc.get? Inventory.nameField.name = some (.string name)) :
    ∃ stock : Stock, stock.docs = memory.documents service.collections.inventory ∧
      (service.weightDistribution options).run (Memory.handler supply now) memory =
        (match stock.firstOverflow? with
          | some weight => .error (.codec (ProductWeights.overflow weight))
          | none => .ok (stock.names.map fun name => .ofSums name (stock.sum name)), memory) ∧
      (stock.firstOverflow? = none ↔
        ∀ name ∈ stock.names, ∀ weight, (stock.sum name weight).isFinite = true) ∧
      (service.searchInventory .empty options).run (Memory.handler supply now) memory =
        (Reporting.orNoResults .searchInventory stock.items, memory) ∧
      ((∀ entry ∈ stock, ∀ weight : Weight, weight.isText entry.doc = false) →
        ∀ name weight, stock.sum name weight =
          Double.sum ((stock.items.filter fun item => item.name == name).map weight.ofItem)) := by
  obtain ⟨stock, hstock⟩ := Stock.exists_docs_eq hitems hnamed
  exact ⟨stock, hstock, service.weightDistribution_memory supply hname hlive hstock,
    Stock.firstOverflow?_eq_none_iff, service.searchInventory_empty supply hname hlive hstock,
    Stock.sum_eq_of_no_text⟩

/-- A distribution over integers, doubles, a `null` and a text, two lots of one product among
them. -/
theorem weightDistribution_exact_mixed :
    let docs : List Document := [
      ⟨[("name", .string "Kiwi"), ("total_weight", .ofInt64 5)]⟩,
      ⟨[("name", .string "Mango"), ("total_weight", .string "7"), ("sold_weight", .null)]⟩,
      ⟨[("name", .string "Kiwi"), ("total_weight", .ofDouble (.ofInt 2))]⟩]
    let memory : Memory := ⟨[("inventory", docs)], 0⟩
    (∀ doc ∈ docs, ∃ item : Inventory, Entity.ofDocument doc = .ok item) ∧
      (∀ doc ∈ docs, ∃ name, doc.get? Inventory.nameField.name = some (.string name)) ∧
      ∃ stock : Stock, stock.docs = docs ∧
        ((({} : ReportService).weightDistribution .unbounded).run
          (Memory.handler (fun _ => ⟨"k"⟩) 0) memory).1 =
            match stock.firstOverflow? with
            | some weight => .error (.codec (ProductWeights.overflow weight))
            | none => .ok (stock.names.map fun name => .ofSums name (stock.sum name)) := by
  intro docs memory
  have hitems : ∀ doc ∈ docs, ∃ item : Inventory, Entity.ofDocument doc = .ok item := by
    intro doc hmem
    simp only [docs, List.mem_cons, List.not_mem_nil, or_false] at hmem
    rcases hmem with rfl | rfl | rfl
    · exact ⟨{ name := "Kiwi", totalWeight := .ofInt 5 }, by decide +kernel⟩
    · exact ⟨{ name := "Mango", totalWeight := .ofInt 7 }, by decide +kernel⟩
    · exact ⟨{ name := "Kiwi", totalWeight := .ofInt 2 }, by decide +kernel⟩
  have hnamed : ∀ doc ∈ docs, ∃ name, doc.get? Inventory.nameField.name = some (.string name) := by
    simp [docs, Document.get?, Entries.get?, Inventory.nameField]
  obtain ⟨stock, hstock, hrun, -⟩ := weightDistribution_exact {} .unbounded 0 (fun _ => ⟨"k"⟩)
    memory (by decide) rfl hitems hnamed
  exact ⟨hitems, hnamed, stock, hstock, congrArg Prod.fst hrun⟩

/-- A weight in a text is part of the item but not of the total. -/
theorem weightDistribution_skips_text :
    let doc : Document := ⟨[("name", .string "Kiwi"), ("total_weight", .string "5")]⟩
    let memory : Memory := ⟨[("inventory", [doc])], 0⟩
    let item : Inventory := { name := "Kiwi", totalWeight := .ofInt 5 }
    let result := (({} : ReportService).weightDistribution .unbounded).run
      (Memory.handler (fun _ => ⟨"k"⟩) 0) memory
    Entity.ofDocument doc = .ok item ∧
      doc.get? Inventory.nameField.name = some (.string item.name) ∧
      result.1 = .ok [{ prodName := "Kiwi", totalWeight := .zero }] ∧
      Double.sum [item.totalWeight] ≠ .zero := by
  decide +kernel

end ReportService

end Stockroom
