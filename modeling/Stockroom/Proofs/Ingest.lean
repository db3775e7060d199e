import Stockroom.Proofs.KeyAssignment
import Stockroom.Proofs.Searching

/-!
# Ingest runs

The service takes in batches of entities, each kind into a collection of its own. A run keeps a log
of what every call was answered. Main invariant: the inventory collection holds, document by
document, the items of the inventory calls that succeeded, with the keys that they were given.
-/

namespace Stockroom

/-- A batch of entities of one kind. -/
inductive Batch
  | inventory (items : List Inventory)
  | metrics (readings : List Metric)
  | devices (units : List Device)
  | reports (summaries : List Report)

namespace Batch

/-- The number of entities of a batch. -/
def size : Batch → Nat
  | inventory items => items.length
  | metrics readings => readings.length
  | devices units => units.length
  | reports summaries => summaries.length

/-- The inventory items of a batch. -/
def items : Batch → List Inventory
  | inventory items => items
  | metrics _ => []
  | devices _ => []
  | reports _ => []

end Batch

/-- A call that takes in a batch, at a moment. -/
structure IngestCall where
  batch : Batch
  options : CallOptions
  now : Nat

namespace IngestCall

/-- Whether the deadline of the call has been reached when it is made. -/
def isExpired (call : IngestCall) : Bool :=
  call.options.isExpired call.now

end IngestCall

/-- A call with what it was answered. -/
structure IngestEntry where
  call : IngestCall
  result : Except ReportError (List DocumentKey)

/-- The items that a call took in, with the keys that it returned in their places. -/
def IngestEntry.items (entry : IngestEntry) : List Inventory :=
  match entry.result with
  | .ok keys => List.zipWith Inventory.keyed entry.call.batch.items keys
  | .error _ => []

namespace IngestEntry

/-- The items of a call that returned keys. -/
theorem items_of_ok {entry : IngestEntry} {keys : List DocumentKey} (h : entry.result = .ok keys) :
    entry.items = List.zipWith Inventory.keyed entry.call.batch.items keys := by
  rw [items, h]

/-- A call that returned no key took nothing in. -/
theorem items_eq_nil {entry : IngestEntry} (h : ∀ keys, entry.result = .ok keys → keys = []) :
    entry.items = [] := by
  cases hresult : entry.result with
  | error cause => rw [items, hresult]
  | ok keys => rw [items_of_ok hresult, h keys hresult, List.zipWith_nil_right]

/-- The items that a call took in have the doubles of those in its batch. -/
theorem isFinite_of_mem_items (entry : IngestEntry)
    (h : ∀ item ∈ entry.call.batch.items, Entity.isFinite item = true) {item : Inventory}
    (hmem : item ∈ entry.items) : Entity.isFinite item = true := by
  rw [items] at hmem
  split at hmem
  case h_1 keys hok =>
    obtain ⟨i, hi, rfl⟩ := List.mem_iff_getElem.mp hmem
    rw [List.getElem_zipWith, Inventory.isFinite_keyed]
    exact h _ (List.getElem_mem _)
  case h_2 => cases hmem

end IngestEntry

/-- A store together with the calls that filled it. -/
structure Intake where
  memory : Memory
  log : List IngestEntry

namespace ReportService

/-- Takes in a batch. -/
def ingest (service : ReportService) (call : IngestCall) : Reporting (List DocumentKey) :=
  match call.batch with
  | .inventory items => service.insertInventory items call.options
  | .metrics readings => service.insertMetrics readings call.options
  | .devices units => service.insertDevices units call.options
  | .reports summaries => service.insertReports summaries call.options

end ReportService

namespace Intake

/-- The store without documents, before any call. -/
def empty : Intake := ⟨.empty, []⟩

/-- The inventory items taken in so far. -/
def items (intake : Intake) : List Inventory :=
  intake.log.flatMap IngestEntry.items

/-- One more call. -/
def step (service : ReportService) (supply : KeySupply) (intake : Intake) (call : IngestCall) :
    Intake :=
  let (result, memory) := (service.ingest call).run (Memory.handler supply call.now) intake.memory
  ⟨memory, intake.log ++ [⟨call, result⟩]⟩

/-- Calls in their order. -/
def run (service : ReportService) (supply : KeySupply) (calls : List IngestCall)
    (intake : Intake) : Intake :=
  calls.foldl (step service supply) intake

end Intake

/-- Documents that hold finite entities are read as the entities. -/
theorem Entity.ofDocuments_eq_ok_of_heldBy {α : Type} [Entity α] {docs : List Document}
    {entities : List α} (h : List.Forall₂ (fun doc entity => HeldBy entity doc) docs entities)
    (hfinite : ∀ entity ∈ entities, isFinite entity = true) :
    ofDocuments docs = .ok entities := by
  rw [ofDocuments_eq_ok_iff]
  induction h with
  | nil => exact .nil
  | cons hhead _ ih =>
    obtain ⟨hfirst, hrest⟩ := List.forall_mem_cons.mp hfinite
    have hread := hhead.ofDocument_eq_ok
    rw [finitePart_eq_self hfirst] at hread
    exact .cons hread (ih hrest)

namespace ReportService

/-- With the store in memory an insertion of a batch that is not empty does what the store does. -/
theorem run_insertEntities {α : Type} [Entity α] (operation : Operation) (collection : String)
    {entities : List α} (hne : entities ≠ []) (options : CallOptions) (now : Nat)
    (supply : KeySupply) (memory : Memory) :
    (insertEntities operation collection entities options).run (Memory.handler supply now) memory =
      match memory.insertMany supply now collection (Entity.toDocuments entities) options with
      | .ok (keys, next) => (.ok keys, next)
      | .error cause => (.error (.store operation cause), memory) := by
  have hsome : entities.isEmpty = false := List.isEmpty_eq_false_iff.mpr hne
  simp only [Reporting.run, insertEntities, hsome, Bool.false_eq_true, if_false, Reporting.request,
    ExceptT.run, ExceptT.mk, Session.run, Memory.handler]
  cases memory.insertMany supply now collection (Entity.toDocuments entities) options <;> rfl

/-- An insertion in time returns one key for each entity and appends the documents with their keys
to its collection. No other collection changes. -/
theorem insertEntities_memory {α : Type} [Entity α] (operation : Operation) {collection : String}
    (entities : List α) {options : CallOptions} {now : Nat} (supply : KeySupply) (memory : Memory)
    (hname : Collection.isName collection.toList = true) (hlive : options.isExpired now = false)
    (hkeys : ∀ entity : α, ∃ key, (Entity.toDocument entity).AllowsKey key) :
    let outcome := (insertEntities operation collection entities options).run
      (Memory.handler supply now) memory
    ∃ keys, outcome.1 = .ok keys ∧
      List.Forall₂ Document.AllowsKey (Entity.toDocuments entities) keys ∧
      outcome.2.documents collection = memory.documents collection ++
        List.zipWith Document.setKey (Entity.toDocuments entities) keys ∧
      ∀ other, other ≠ collection → outcome.2.documents other = memory.documents other := by
  intro outcome
  by_cases hne : entities = []
  · subst hne
    exact ⟨[], rfl, .nil, (List.append_nil _).symm, fun _ _ => rfl⟩
  have hdocs : ∀ doc ∈ Entity.toDocuments entities, ∃ key, doc.AllowsKey key := by
    intro doc hdoc
    obtain ⟨entity, -, rfl⟩ := List.mem_map.mp hdoc
    exact hkeys entity
  obtain ⟨keys, used, hassign, hallows⟩ := Document.assignKeys_eq_ok supply hdocs memory.issued
  have hinsert : memory.insertMany supply now collection (Entity.toDocuments entities) options =
      .ok (keys, memory.append collection
        (List.zipWith Document.setKey (Entity.toDocuments entities) keys) used) := by
    rw [Memory.insertMany, Memory.checkCall_eq_ok hlive hname, hassign]
    rfl
  have houtcome : outcome = (.ok keys, memory.append collection
      (List.zipWith Document.setKey (Entity.toDocuments entities) keys) used) := by
    simp only [outcome, run_insertEntities operation collection hne, hinsert]
  rw [houtcome]
  exact ⟨keys, rfl, hallows, Memory.documents_append_self memory collection _ used,
    fun other hother => memory.documents_append_of_ne hother _ used⟩

/-- An insertion that comes too late changes nothing and returns no key. -/
theorem insertEntities_expired {α : Type} [Entity α] (operation : Operation) (collection : String)
    (entities : List α) {options : CallOptions} {now : Nat} (supply : KeySupply) (memory : Memory)
    (hexpired : options.isExpired now = true) :
    let outcome := (insertEntities operation collection entities options).run
      (Memory.handler supply now) memory
    outcome.2 = memory ∧ ∀ keys, outcome.1 = .ok keys → keys = [] := by
  intro outcome
  by_cases hne : entities = []
  · subst hne
    exact ⟨rfl, fun keys h => (Except.ok.inj h).symm⟩
  have hinsert : memory.insertMany supply now collection (Entity.toDocuments entities) options =
      .error (.deadlineExceeded "insert_many") := by
    rw [Memory.insertMany, Memory.checkCall_eq_error hexpired]
    rfl
  have houtcome : outcome =
      (.error (.store operation (.deadlineExceeded "insert_many")), memory) := by
    simp only [outcome, run_insertEntities operation collection hne, hinsert]
  rw [houtcome]
  exact ⟨rfl, fun keys h => by cases h⟩

/-- An insertion in time into another collection leaves a collection as it is. -/
theorem insertEntities_elsewhere {α : Type} [Entity α] (operation : Operation) {collection : String}
    (entities : List α) {options : CallOptions} {now : Nat} (supply : KeySupply) (memory : Memory)
    (hname : Collection.isName collection.toList = true) (hlive : options.isExpired now = false)
    (hkeys : ∀ entity : α, ∃ key, (Entity.toDocument entity).AllowsKey key) {other : String}
    (hother : other ≠ collection) :
    let outcome := (insertEntities operation collection entities options).run
      (Memory.handler supply now) memory
    ∃ keys, outcome.1 = .ok keys ∧ keys.length = entities.length ∧
      outcome.2.documents other = memory.documents other := by
  obtain ⟨keys, hok, hallows, -, hsame⟩ :=
    insertEntities_memory operation entities supply memory hname hlive hkeys
  refine ⟨keys, hok, ?_, hsame other hother⟩
  rw [← hallows.length_eq, Entity.toDocuments, List.length_map]

/-- A call in time returns one key for each entity of its batch, and the inventory collection gets
documents that hold the inventory items of the batch with these keys. -/
theorem ingest_memory (service : ReportService) (supply : KeySupply) (memory : Memory)
    {call : IngestCall} (hlive : call.isExpired = false)
    (hnames : ∀ name ∈ service.collections.all, Collection.isName name.toList = true)
    (hdistinct : service.collections.all.Nodup) :
    let outcome := (service.ingest call).run (Memory.handler supply call.now) memory
    ∃ keys fresh, outcome.1 = .ok keys ∧ keys.length = call.batch.size ∧
      outcome.2.documents service.collections.inventory =
        memory.documents service.collections.inventory ++ fresh ∧
      List.Forall₂ (fun doc item => Entity.HeldBy item doc) fresh
        (List.zipWith Inventory.keyed call.batch.items keys) := by
  have hother : ∀ name ∈ service.collections.all.tail, service.collections.inventory ≠ name := by
    intro name hmem heq
    exact (List.nodup_cons.mp hdistinct).1 (heq ▸ hmem)
  obtain ⟨batch, options, now⟩ := call
  cases batch with
  | inventory items =>
    obtain ⟨keys, hok, hallows, hfresh, -⟩ := insertEntities_memory .insertInventory items supply
      memory (hnames service.collections.inventory (by simp [Collections.all])) hlive
      fun item => Schema.exists_allowsKey (Entity.heldBy_toDocument item)
    refine ⟨keys, _, hok, ?_, hfresh, Inventory.heldBy_zipWith hallows⟩
    rw [← hallows.length_eq, Entity.toDocuments, List.length_map, Batch.size]
  | metrics readings =>
    obtain ⟨keys, hok, hlength, hsame⟩ := insertEntities_elsewhere .insertMetrics readings supply
      memory (hnames _ (by simp [Collections.all])) hlive
      (fun metric => Schema.exists_allowsKey (Entity.heldBy_toDocument metric))
      (hother service.collections.metric (by simp [Collections.all]))
    exact ⟨keys, [], hok, hlength, hsame.trans (List.append_nil _).symm, .nil⟩
  | devices units =>
    obtain ⟨keys, hok, hlength, hsame⟩ := insertEntities_elsewhere .insertDevices units supply
      memory (hnames _ (by simp [Collections.all])) hlive
      (fun device => Schema.exists_allowsKey (Entity.heldBy_toDocument device))
      (hother service.collections.device (by simp [Collections.all]))
    exact ⟨keys, [], hok, hlength, hsame.trans (List.append_nil _).symm, .nil⟩
  | reports summaries =>
    obtain ⟨keys, hok, hlength, hsame⟩ := insertEntities_elsewhere .insertReports summaries supply
      memory (hnames _ (by simp [Collections.all])) hlive
      (fun report => Schema.exists_allowsKey (Entity.heldBy_toDocument report))
      (hother service.collections.report (by simp [Collections.all]))
    exact ⟨keys, [], hok, hlength, hsame.trans (List.append_nil _).symm, .nil⟩

/-- A call that comes too late changes nothing and returns no key. -/
theorem ingest_expired (service : ReportService) (supply : KeySupply) (memory : Memory)
    {call : IngestCall} (hexpired : call.isExpired = true) :
    let outcome := (service.ingest call).run (Memory.handler supply call.now) memory
    outcome.2 = memory ∧ ∀ keys, outcome.1 = .ok keys → keys = [] := by
  obtain ⟨batch, options, now⟩ := call
  cases batch with
  | inventory items => exact insertEntities_expired _ _ items supply memory hexpired
  | metrics readings => exact insertEntities_expired _ _ readings supply memory hexpired
  | devices units => exact insertEntities_expired _ _ units supply memory hexpired
  | reports summaries => exact insertEntities_expired _ _ summaries supply memory hexpired

end ReportService

/-- The main invariant of ingest runs: the inventory collection holds the items taken in, and every
call in time was answered with one key for each entity. -/
structure Intake.Accounted (service : ReportService) (intake : Intake) : Prop where
  held : List.Forall₂ (fun doc item => Entity.HeldBy item doc)
    (intake.memory.documents service.collections.inventory) intake.items
  answered : ∀ entry ∈ intake.log, entry.call.isExpired = false →
    ∃ keys, entry.result = .ok keys ∧ keys.length = entry.call.batch.size

/-- The invariant of ingest runs of finite items: all items taken in are finite besides. -/
structure Intake.Sound (service : ReportService) (intake : Intake) : Prop
    extends Intake.Accounted service intake where
  finite : ∀ item ∈ intake.items, Entity.isFinite item = true

namespace Intake

variable {service : ReportService}

/-- The items taken in after one more call. -/
theorem items_concat (intake : Intake) (entry : IngestEntry) (memory : Memory) :
    items ⟨memory, intake.log ++ [entry]⟩ = intake.items ++ entry.items := by
  simp [items]

namespace Accounted

/-- Before any call nothing is held. -/
theorem empty : Accounted service .empty where
  held := .nil
  answered := List.forall_mem_nil _

/-- A call that took in the items which its fresh documents hold preserves the invariant. -/
theorem concat {intake : Intake} (h : Accounted service intake) {entry : IngestEntry}
    {memory : Memory} {fresh : List Document}
    (hfresh : memory.documents service.collections.inventory =
      intake.memory.documents service.collections.inventory ++ fresh)
    (hheld : List.Forall₂ (fun doc item => Entity.HeldBy item doc) fresh entry.items)
    (hanswered : entry.call.isExpired = false →
      ∃ keys, entry.result = .ok keys ∧ keys.length = entry.call.batch.size) :
    Accounted service ⟨memory, intake.log ++ [entry]⟩ := by
  constructor
  · rw [items_concat, hfresh]
    exact List.rel_append h.held hheld
  · intro other hmem
    rcases List.mem_append.mp hmem with hold | hnew
    · exact h.answered other hold
    · rw [List.mem_singleton.mp hnew]
      exact hanswered

/-- A call preserves the invariant. -/
theorem step {intake : Intake} (h : Accounted service intake) (supply : KeySupply)
    (call : IngestCall)
    (hnames : ∀ name ∈ service.collections.all, Collection.isName name.toList = true)
    (hdistinct : service.collections.all.Nodup) :
    Accounted service (intake.step service supply call) := by
  cases hexpired : call.isExpired with
  | true =>
    obtain ⟨hsame, hnone⟩ := service.ingest_expired supply intake.memory hexpired
    have hfresh : ((service.ingest call).run (Memory.handler supply call.now)
        intake.memory).2.documents service.collections.inventory =
          intake.memory.documents service.collections.inventory ++ [] := by
      rw [hsame, List.append_nil]
    refine h.concat hfresh ?_ ?_
    · rw [IngestEntry.items_eq_nil hnone]
      exact .nil
    · intro hlive
      rw [hexpired] at hlive
      cases hlive
  | false =>
    obtain ⟨keys, fresh, hok, hlength, hfresh, hheld⟩ :=
      service.ingest_memory supply intake.memory hexpired hnames hdistinct
    refine h.concat hfresh ?_ fun _ => ⟨keys, hok, hlength⟩
    rw [IngestEntry.items_of_ok hok]
    exact hheld

/-- After any calls the invariant holds. -/
theorem run {intake : Intake} (h : Accounted service intake) (supply : KeySupply)
    (calls : List IngestCall)
    (hnames : ∀ name ∈ service.collections.all, Collection.isName name.toList = true)
    (hdistinct : service.collections.all.Nodup) :
    Accounted service (intake.run service supply calls) := by
  induction calls generalizing intake with
  | nil => exact h
  | cons call rest ih => exact ih (h.step supply call hnames hdistinct)

end Accounted

namespace Sound

/-- Before any call nothing is held. -/
theorem empty : Sound service .empty where
  toAccounted := .empty
  finite := List.forall_mem_nil _

/-- A call with finite items preserves the invariant. -/
theorem step {intake : Intake} (h : Sound service intake) (supply : KeySupply) {call : IngestCall}
    (hnames : ∀ name ∈ service.collections.all, Collection.isName name.toList = true)
    (hdistinct : service.collections.all.Nodup)
    (hfinite : ∀ item ∈ call.batch.items, Entity.isFinite item = true) :
    Sound service (intake.step service supply call) := by
  refine ⟨h.toAccounted.step supply call hnames hdistinct, ?_⟩
  rw [Intake.step, items_concat]
  intro item hmem
  rcases List.mem_append.mp hmem with hold | hnew
  · exact h.finite item hold
  · exact IngestEntry.isFinite_of_mem_items _ hfinite hnew

/-- After any calls with finite items the invariant holds. -/
theorem run {intake : Intake} (h : Sound service intake) (supply : KeySupply)
    {calls : List IngestCall}
    (hnames : ∀ name ∈ service.collections.all, Collection.isName name.toList = true)
    (hdistinct : service.collections.all.Nodup)
    (hfinite : ∀ call ∈ calls, ∀ item ∈ call.batch.items, Entity.isFinite item = true) :
    Sound service (intake.run service supply calls) := by
  induction calls generalizing intake with
  | nil => exact h
  | cons call rest ih =>
    have hstep := h.step supply hnames hdistinct (hfinite call List.mem_cons_self)
    exact ih hstep fun other hmem => hfinite other (List.mem_cons_of_mem _ hmem)

end Sound

end Intake

end Stockroom
