import Stockroom.Proofs.Compilation
import Stockroom.Proofs.Searching

/-!
# Inventory searches are exact

An inventory search compiles its parameters, lets the store evaluate the filter and decodes what
comes back. Main statement: against the store in memory these steps together select exactly the
documents that satisfy the last parameter of a known type on each field.
-/

namespace Stockroom.ReportService

/-- A search whose parameters compile answers with the documents that satisfy the parameters. -/
theorem searchInventory_memory (service : ReportService) {criteria : SearchCriteria}
    {filter : Filter} {options : CallOptions} {now : Nat} (supply : KeySupply) (memory : Memory)
    (hname : Collection.isName service.collections.inventory.toList = true)
    (hlive : options.isExpired now = false) (hcompiles : Filter.ofCriteria criteria = .ok filter) :
    (service.searchInventory criteria options).run (Memory.handler supply now) memory =
      (Reporting.answer Inventory .searchInventory
        ((memory.documents service.collections.inventory).filter fun doc =>
          decide (doc.Satisfies criteria.inventory)), memory) := by
  have haccepts : filter.accepts = fun doc => decide (doc.Satisfies criteria.inventory) := by
    funext doc
    rw [Bool.eq_iff_iff, decide_eq_true_iff]
    exact Filter.accepts_ofParams hcompiles doc
  rw [← haccepts, ← findEntities_memory .searchInventory filter supply memory hname hlive]
  simp only [Reporting.run, run_searchInventory, hcompiles]

/-- A search whose parameters compile but that comes too late is refused. -/
theorem searchInventory_expired (service : ReportService) {criteria : SearchCriteria}
    {filter : Filter} {options : CallOptions} {now : Nat} (supply : KeySupply) (memory : Memory)
    (hexpired : options.isExpired now = true)
    (hcompiles : Filter.ofCriteria criteria = .ok filter) :
    (service.searchInventory criteria options).run (Memory.handler supply now) memory =
      (.error (.store .searchInventory (.deadlineExceeded "find")), memory) := by
  rw [← findEntities_expired (α := Inventory) .searchInventory service.collections.inventory filter
    supply memory hexpired]
  simp only [Reporting.run, run_searchInventory, hcompiles]

/-- An inventory search with valid parameters selects the documents that satisfy the parameters,
each of them once and in the order of their insertion. It answers with their entities, with the
error of the first one that is no entity, or with a complaint if there are none. -/
theorem searchInventory_exact (service : ReportService) (criteria : SearchCriteria)
    (options : CallOptions) (now : Nat) (supply : KeySupply) (memory : Memory)
    (hname : Collection.isName service.collections.inventory.toList = true)
    (hlive : options.isExpired now = false)
    (hvalid : ∀ param ∈ criteria.inventory, param.Valid) :
    let selected := (memory.documents service.collections.inventory).filter fun doc =>
      decide (doc.Satisfies criteria.inventory)
    let result :=
      (service.searchInventory criteria options).run (Memory.handler supply now) memory
    result.2 = memory ∧
      (selected = [] → result.1 = .error (.noResults .searchInventory)) ∧
      (∀ items, items ≠ [] →
        List.Forall₂ (fun doc item => Entity.ofDocument doc = .ok item) selected items →
        result.1 = .ok items) ∧
      ∀ before doc after cause, selected = before ++ doc :: after →
        (∀ earlier ∈ before, ∃ item : Inventory, Entity.ofDocument earlier = .ok item) →
        Entity.ofDocument (α := Inventory) doc = .error cause →
        result.1 = .error (.codec cause) := by
  intro selected result
  obtain ⟨filter, hfilter⟩ : ∃ filter, Filter.ofCriteria criteria = .ok filter :=
    Filter.exists_addParams hvalid 0 .empty
  have hresult : result = (Reporting.answer Inventory .searchInventory selected, memory) :=
    service.searchInventory_memory supply memory hname hlive hfilter
  rw [hresult]
  refine ⟨rfl, ?_, ?_, ?_⟩
  · intro hnone
    rw [hnone]
    rfl
  · intro items hne hitems
    exact Reporting.answer_eq_ok_iff.mpr ⟨Entity.ofDocuments_eq_ok_iff.mpr hitems, hne⟩
  · intro before doc after cause hselected hbefore hdoc
    rw [hselected, Reporting.answer_append_cons hbefore hdoc]

/-- Of two parameters on the name the later one counts, and the one of an unknown type does not. -/
theorem searchInventory_exact_override :
    let criteria := SearchCriteria.empty.insert "inventory"
      [⟨"name", "string", "Kiwi", .zero, .zero⟩, ⟨"flag", "bool", "yes", .zero, .zero⟩,
        ⟨"name", "string", "Mango", .zero, .zero⟩, ⟨"upc", "int", " 42", .zero, .zero⟩]
    let mango : Document := ⟨[("upc", .ofInt64 42), ("name", .string "Mango")]⟩
    let kiwi : Document := ⟨[("upc", .ofInt64 42), ("name", .string "Kiwi")]⟩
    let memory : Memory := ⟨[("inventory", [kiwi, mango, ⟨[("upc", .ofInt64 42)]⟩])], 0⟩
    Collection.isName "inventory".toList = true ∧
      CallOptions.unbounded.isExpired 0 = false ∧
      (∀ param ∈ criteria.inventory, param.Valid) ∧
      ((({} : ReportService).searchInventory criteria .unbounded).run
        (Memory.handler (fun _ => ⟨"k"⟩) 0) memory).1 = .ok [{ name := "Mango", upc := 42 }] := by
  intro criteria mango kiwi memory
  have hname : Collection.isName "inventory".toList = true := by decide
  have hvalid : ∀ param ∈ criteria.inventory, param.Valid := by decide
  have hmango : Entity.ofDocument mango = .ok ({ name := "Mango", upc := 42 } : Inventory) := by
    decide
  refine ⟨hname, rfl, hvalid, ?_⟩
  exact (searchInventory_exact {} criteria .unbounded 0 (fun _ => ⟨"k"⟩) memory hname rfl
    hvalid).2.2.1 [_] (List.cons_ne_nil _ _) (.cons hmango .nil)

end Stockroom.ReportService
