import Stockroom.Proofs.Ingest
import Stockroom.Proofs.WeightTotals

/-!
# Weights of what was taken in

The documents of items hold their names as texts and their weights as numbers, or as `null` for a
weight that is not finite. Main statement: after any run of ingest calls the weight distribution adds
up the weights of the items taken in, and it fails only if such a sum overflows. Weights of limited
magnitude do not overflow.
-/

namespace Stockroom

/-- The magnitude of a number in units; zero for what is not finite. -/
def Double.units : Double → Nat
  | finite value => value.units
  | nan => 0
  | infinite _ => 0

/-- The finite part of a number has its magnitude. -/
theorem Double.exists_finitePart_eq (x : Double) :
    ∃ value : Finite, x.finitePart = finite value ∧ value.units = x.units := by
  cases x with
  | nan => exact ⟨Finite.zero, rfl, rfl⟩
  | infinite negative => exact ⟨Finite.zero, rfl, rfl⟩
  | finite value => exact ⟨value, rfl, rfl⟩

/-- What is written of a weight is read back as its finite part. -/
theorem Weight.ofItem_finitePart (weight : Weight) (item : Inventory) :
    weight.ofItem (Entity.finitePart item) = (weight.ofItem item).finitePart := by
  cases weight <;> rfl

/-- The document of an item holds its name as a text. -/
theorem Inventory.get?_name_of_heldBy {item : Inventory} {doc : Document}
    (h : Entity.HeldBy item doc) : doc.get? nameField.name = some (.string item.name) :=
  h.get?_of_mem_cells item.name_mem_cells

/-- The document of an item holds no weight as a text. -/
theorem Weight.isText_of_heldBy (weight : Weight) {item : Inventory} {doc : Document}
    (h : Entity.HeldBy item doc) : weight.isText doc = false := by
  have hcell := h.get?_of_mem_cells (weight.cell_mem_cells item)
  have hget : doc.get? weight.field.name = some (.ofDouble (weight.ofItem item)) := by
    cases weight <;> exact hcell
  rw [isText, hget]
  cases weight.ofItem item <;> rfl

namespace Stock

/-- Documents that hold items are stock without weights in texts. -/
theorem exists_of_heldBy {docs : List Document} {items : List Inventory}
    (h : List.Forall₂ (fun doc item => Entity.HeldBy item doc) docs items) :
    ∃ stock : Stock, stock.docs = docs ∧ stock.items = items.map Entity.finitePart ∧
      ∀ entry ∈ stock, ∀ weight : Weight, weight.isText entry.doc = false := by
  induction h with
  | nil => exact ⟨[], rfl, rfl, List.forall_mem_nil _⟩
  | @cons doc item _ _ hheld _ ih =>
    obtain ⟨stock, rfl, hitems, htexts⟩ := ih
    have hname := Inventory.get?_name_of_heldBy hheld
    let entry : StockedItem := ⟨doc, Entity.finitePart item, hheld.ofDocument_eq_ok, hname⟩
    refine ⟨entry :: stock, rfl, congrArg (Entity.finitePart item :: ·) hitems, ?_⟩
    exact List.forall_mem_cons.mpr ⟨fun weight => weight.isText_of_heldBy hheld, htexts⟩

end Stock

namespace Intake

/-- The names of the items taken in, each once, in the order in which they first occur. -/
def names (intake : Intake) : List String :=
  (intake.items.map Inventory.name).eraseDups

/-- The weights of the items taken in under a name, in their order. What is not finite counts for
zero. -/
def weights (intake : Intake) (name : String) (weight : Weight) : List Double :=
  (intake.items.filter fun item => item.name == name).map fun item =>
    (weight.ofItem item).finitePart

/-- The sum of a weight over the items taken in under a name. -/
def sum (intake : Intake) (name : String) (weight : Weight) : Double :=
  Double.sum (intake.weights name weight)

/-- The first weight, in the order in which the rows are read, whose sum overflows. -/
def firstOverflow? (intake : Intake) : Option Weight :=
  intake.names.findSome? fun name => ProductWeights.firstOverflow? (intake.sum name)

/-- Whether at most `2 ^ 53` items were taken in and all their weights that are finite are at most
`2 ^ 970`, which is `2 ^ 2044` units. -/
structure Moderate (intake : Intake) : Prop where
  length_le : intake.items.length ≤ Nat.pow 2 53
  units_le : ∀ item ∈ intake.items, ∀ weight : Weight,
    (weight.ofItem item).units ≤ Nat.pow 2 2044

/-- No sum overflows if none is found that does. -/
theorem firstOverflow?_eq_none_iff {intake : Intake} :
    intake.firstOverflow? = none ↔ ∀ name weight, (intake.sum name weight).isFinite = true := by
  simp only [firstOverflow?, List.findSome?_eq_none_iff, ProductWeights.firstOverflow?_eq_none_iff]
  refine ⟨fun h name weight => ?_, fun h name _ => h name⟩
  by_cases hname : name ∈ intake.names
  case pos => exact h name hname weight
  case neg =>
    -- Without items of the name there is nothing to sum.
    have hnone : intake.weights name weight = [] := by
      rw [weights, List.map_eq_nil_iff, List.filter_eq_nil_iff]
      intro item hmem hitem
      rw [beq_iff_eq] at hitem
      exact hname (List.mem_eraseDups.mpr (List.mem_map.mpr ⟨item, hmem, hitem⟩))
    rw [sum, hnone]
    rfl

/-- Moderate weights do not overflow. -/
theorem Moderate.isFinite_sum {intake : Intake} (h : intake.Moderate) (name : String)
    (weight : Weight) : (intake.sum name weight).isFinite = true := by
  have hlength : (intake.weights name weight).length ≤ Nat.pow 2 53 := by
    rw [weights, List.length_map]
    exact Nat.le_trans (List.length_filter_le _ _) h.length_le
  have hterms : ∀ x ∈ intake.weights name weight,
      ∃ value : Double.Finite, x = .finite value ∧ value.units ≤ Nat.pow 2 2044 := by
    intro x hx
    obtain ⟨item, hmem, rfl⟩ := List.mem_map.mp hx
    obtain ⟨value, heq, hunits⟩ := (weight.ofItem item).exists_finitePart_eq
    exact ⟨value, heq, hunits ▸ h.units_le item (List.mem_filter.mp hmem).1 weight⟩
  obtain ⟨total, htotal, -⟩ := Double.exists_sum_eq_finite (by decide) hlength hterms
  rw [sum, htotal]
  rfl

/-- What a store holds after ingest runs is stock with the names and the sums of the items taken
in. -/
theorem Accounted.exists_stock {service : ReportService} {intake : Intake}
    (h : Accounted service intake) :
    ∃ stock : Stock, stock.docs = intake.memory.documents service.collections.inventory ∧
      stock.names = intake.names ∧ ∀ name, stock.sum name = intake.sum name := by
  obtain ⟨stock, hdocs, hitems, htexts⟩ := Stock.exists_of_heldBy h.held
  refine ⟨stock, hdocs, ?_, fun name => funext fun weight => ?_⟩
  · rw [Stock.names, hitems, List.map_map]
    rfl
  · rw [Stock.sum_eq_of_no_text htexts, hitems, List.filter_map, List.map_map]
    exact congrArg Double.sum (List.map_congr_left fun item _ => weight.ofItem_finitePart item)

end Intake

namespace ReportService

/-- After any ingest calls to an empty store the weight distribution has one row for each name that
was taken in, with the sums of the weights taken in under it. It fails only if one of these sums
overflows, and sums of moderate weights do not. -/
theorem ingestedWeights_summed (service : ReportService) (supply : KeySupply)
    (calls : List IngestCall)
    (hnames : ∀ name ∈ service.collections.all, Collection.isName name.toList = true)
    (hdistinct : service.collections.all.Nodup) (options : CallOptions) (now : Nat)
    (hlive : options.isExpired now = false) :
    let intake := Intake.empty.run service supply calls
    let rows : List ProductWeights := intake.names.map fun name => .ofSums name (intake.sum name)
    (service.weightDistribution options).run (Memory.handler supply now) intake.memory =
        (match intake.firstOverflow? with
          | some weight => .error (.codec (ProductWeights.overflow weight))
          | none => .ok rows, intake.memory) ∧
      (intake.firstOverflow? = none ↔
        ∀ name weight, (intake.sum name weight).isFinite = true) ∧
      (intake.Moderate → intake.firstOverflow? = none) := by
  intro intake rows
  have hname := hnames service.collections.inventory (by simp [Collections.all])
  have haccounted : Intake.Accounted service intake :=
    Intake.Accounted.empty.run supply calls hnames hdistinct
  obtain ⟨stock, hdocs, hstockNames, hsums⟩ := haccounted.exists_stock
  have hoverflow : stock.firstOverflow? = intake.firstOverflow? := by
    simp only [Stock.firstOverflow?, Intake.firstOverflow?, hstockNames, hsums]
  refine ⟨?_, Intake.firstOverflow?_eq_none_iff, fun hmoderate =>
    Intake.firstOverflow?_eq_none_iff.mpr hmoderate.isFinite_sum⟩
  rw [service.weightDistribution_memory supply hname hlive hdocs, hoverflow]
  simp only [hstockNames, hsums]
  rfl

/-- Two lots of kiwis and one of mangos, whose waste is no number and counts for zero. A third lot of
kiwis comes too late. -/
theorem ingestedWeights_summed_kiwis :
    let supply : KeySupply := fun _ => ⟨"k"⟩
    let kiwi : Inventory := { name := "Kiwi", totalWeight := .ofInt 5, soldWeight := .ofInt 2 }
    let mango : Inventory := { name := "Mango", totalWeight := .ofInt 7, wasteWeight := .nan }
    let calls : List IngestCall := [⟨.inventory [kiwi, mango, kiwi], .unbounded, 0⟩,
      ⟨.devices [{}], .unbounded, 1⟩, ⟨.inventory [kiwi], .withTimeout 0 1, 2⟩]
    let service : ReportService := {}
    let rows : List ProductWeights :=
      [{ prodName := "Kiwi", totalWeight := .ofInt 10, soldWeight := .ofInt 4 },
        { prodName := "Mango", totalWeight := .ofInt 7 }]
    (∀ name ∈ service.collections.all, Collection.isName name.toList = true) ∧
      service.collections.all.Nodup ∧ CallOptions.unbounded.isExpired 3 = false ∧
      (Intake.empty.run service supply calls).Moderate ∧
      ((service.weightDistribution .unbounded).run (Memory.handler supply 3)
        (Intake.empty.run service supply calls).memory).1 = .ok rows := by
  intro supply kiwi mango calls service rows
  have hnames : ∀ name ∈ service.collections.all, Collection.isName name.toList = true := by decide
  have hdistinct : service.collections.all.Nodup := by decide
  have hmoderate : (Intake.empty.run service supply calls).Moderate :=
    ⟨by decide +kernel, by decide +kernel⟩
  obtain ⟨hrun, -, hnone⟩ :=
    ingestedWeights_summed service supply calls hnames hdistinct .unbounded 3 rfl
  refine ⟨hnames, hdistinct, rfl, hmoderate, ?_⟩
  rw [hrun, hnone hmoderate]
  decide +kernel

/-- Two finite weights whose sum is `2 ^ 1024` fail the weight distribution. -/
theorem ingestedWeights_overflow :
    let supply : KeySupply := fun _ => ⟨"k"⟩
    let kiwi : Inventory := { name := "Kiwi", totalWeight := .ofRatio false (Nat.pow 2 2097) 1 }
    let calls : List IngestCall := [⟨.inventory [kiwi, kiwi], .unbounded, 0⟩]
    let service : ReportService := {}
    (∀ name ∈ service.collections.all, Collection.isName name.toList = true) ∧
      service.collections.all.Nodup ∧ kiwi.totalWeight.isFinite = true ∧
      ((service.weightDistribution .unbounded).run (Memory.handler supply 1)
        (Intake.empty.run service supply calls).memory).1 =
          .error (.codec (.aggregateShapeMismatch "total_weight" .float (some .null))) := by
  decide +kernel

end ReportService

end Stockroom
