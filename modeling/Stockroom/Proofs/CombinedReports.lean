import Stockroom.Proofs.Codec
import Stockroom.Proofs.ForeignKeys
import Stockroom.Proofs.Interleaving
import Stockroom.Proofs.Searching

/-!
# Combined reports among other clients

A combined report searches the inventory and then what is joined to it, and other clients may change
the store before, between and after. The second search goes by the keys of the inventory that the
first one found, so the two sides of a response belong together whatever the others do.
-/

namespace Stockroom

/-- How far a reporting computation has come after turns of its own and of other clients. -/
def Reporting.runAmong {α : Type} (supply : KeySupply) (turns : List Turn)
    (computation : Reporting α) (memory : Memory) : Progress (Except ReportError α) :=
  (Progress.start (ExceptT.run computation) memory).run supply turns

/-- Whether a document holds an identifier in a field in the text in which it is written. -/
def Document.Writes (doc : Document) (field : String) (id : EntityId) : Prop :=
  doc.get? field = some (.string id.text)

instance (doc : Document) (field : String) (id : EntityId) : Decidable (doc.Writes field id) :=
  inferInstanceAs (Decidable (_ = _))

namespace ForeignKeyJoin

/-- Whether identifiers belong to records with the given keys: each is a key other than nil of a
record, or the key of the last record. -/
def Links (join : ForeignKeyJoin) (keys joined : List EntityId) : Prop :=
  match join with
  | allRecords => ∀ key ∈ joined, key ≠ .nil ∧ key ∈ keys
  | lastRecord => ∀ key ∈ joined, keys.getLast? = some key

instance (keys joined : List EntityId) :
    (join : ForeignKeyJoin) → Decidable (join.Links keys joined)
  | allRecords => inferInstanceAs (Decidable (∀ _ ∈ _, _ ∧ _))
  | lastRecord => inferInstanceAs (Decidable (∀ _ ∈ _, _))

/-- The filter of a join with records does not accept every document. -/
theorem accepts_filter_empty (join : ForeignKeyJoin) (field : String) {keys : List EntityId}
    (hkeys : keys ≠ []) : (join.filter field keys).accepts .empty = false := by
  rw [Bool.eq_false_iff, Ne, accepts_filter]
  cases join with
  | allRecords =>
    rintro ⟨key, -, -, hget⟩
    cases hget
  | lastRecord =>
    intro hall
    cases hall _ (List.getLast?_eq_some_getLast hkeys)

/-- A document whose field is read as an identifier is joined to all records if the identifier is
one of their keys other than nil and is held as it is written. -/
theorem selects_allRecords_of_read {doc : Document} {field : String} {id : EntityId}
    (hread : doc.read .id field = .ok id) (keys : List EntityId) :
    allRecords.Selects field keys doc ↔ (id ≠ .nil ∧ id ∈ keys) ∧ doc.Writes field id := by
  constructor
  · rintro ⟨key, hmem, hne, hget⟩
    -- The text of a key is read as that key, so no other key can have selected the document.
    rw [Document.read_id_text hget] at hread
    obtain rfl := Except.ok.inj hread
    exact ⟨⟨hne, hmem⟩, hget⟩
  · rintro ⟨⟨hne, hmem⟩, hwrites⟩
    exact ⟨id, hmem, hne, hwrites⟩

/-- The identifiers read from joined documents belong to the records. -/
theorem links_of_selects {join : ForeignKeyJoin} (field : String) {keys : List EntityId}
    (hkeys : keys ≠ []) {joined : List EntityId}
    (h : ∀ key ∈ joined, ∃ doc, join.Selects field keys doc ∧ doc.read .id field = .ok key) :
    join.Links keys joined := by
  cases join with
  | allRecords =>
    intro key hmem
    obtain ⟨doc, hselects, hread⟩ := h key hmem
    exact ((selects_allRecords_of_read hread keys).mp hselects).1
  | lastRecord =>
    intro key hmem
    obtain ⟨doc, hselects, hread⟩ := h key hmem
    have hlast := List.getLast?_eq_some_getLast hkeys
    rw [Document.read_id_text (hselects _ hlast)] at hread
    obtain rfl := Except.ok.inj hread
    exact hlast

end ForeignKeyJoin

/-- A side of combined reports: entities that are joined to inventory by an identifier. -/
structure ReportSide (α : Type) [Entity α] where
  operation : Operation
  collection : Collections → String
  field : String
  keyOf : Inventory → EntityId
  joinedKey : α → EntityId
  respond : List Inventory → List α → ReportResponse
  /-- The identifier of an entity is what its document holds in the field. -/
  read_joinedKey : ∀ (doc : Document) (entity : α), Entity.ofDocument doc = .ok entity →
    doc.read .id field = .ok (joinedKey entity)

namespace ReportSide

/-- The metrics of a report; the devices are absent. -/
def metric : ReportSide Metric where
  operation := .searchMetrics
  collection := Collections.metric
  field := "item_id"
  keyOf := Inventory.itemId
  joinedKey := Metric.itemId
  respond inventory metric := { inventory, metric := some metric }
  read_joinedKey doc metric h := by
    have hkey := (Schema.decode_cons_eq_ok_iff.mp (Entity.ofDocument_eq_ok_iff.mp h)).2
    exact (Schema.decode_cons_eq_ok_iff.mp hkey).1

/-- The devices of a report; the metrics are absent. -/
def device : ReportSide Device where
  operation := .searchDevices
  collection := Collections.device
  field := "device_id"
  keyOf := Inventory.deviceId
  joinedKey := Device.deviceId
  respond inventory device := { inventory, device := some device }
  read_joinedKey doc device h := by
    have hkey := (Schema.decode_cons_eq_ok_iff.mp (Entity.ofDocument_eq_ok_iff.mp h)).2
    exact (Schema.decode_cons_eq_ok_iff.mp hkey).1

variable {α : Type} [Entity α]

/-- The report with one side. -/
def report (side : ReportSide α) (service : ReportService) (criteria : SearchCriteria)
    (options : CallOptions) : Reporting ReportResponse := do
  let inventory ← service.searchInventory criteria options
  let joined ← ReportService.findEntities α side.operation (side.collection service.collections)
    (service.join.filter side.field (inventory.map side.keyOf)) options
  return side.respond inventory joined

/-- Whether inventory and joined entities are what a report should give, the entities having been
found in a store: neither side is empty, the entities belong to the inventory, and they are those of
all documents joined to it. -/
structure Matches (side : ReportSide α) (service : ReportService) (memory : Memory)
    (inventory : List Inventory) (joined : List α) : Prop where
  inventory_ne_nil : inventory ≠ []
  joined_ne_nil : joined ≠ []
  links : service.join.Links (inventory.map side.keyOf) (joined.map side.joinedKey)
  complete : List.Forall₂ (fun doc entity => Entity.ofDocument doc = .ok entity)
    ((memory.documents (side.collection service.collections)).filter fun doc =>
      decide (service.join.Selects side.field (inventory.map side.keyOf) doc)) joined

/-- Whether a report in progress is consistent: after the inventory it asks only for joined records,
never for every document, and if it succeeds, it has found two sides that match. -/
structure Consistent (side : ReportSide α) (service : ReportService)
    (progress : Progress (Except ReportError ReportResponse)) : Prop where
  selective : ∀ encounter ∈ progress.encounters.drop 1, ∃ filter options,
    encounter.request = .find (side.collection service.collections) filter options ∧
      filter.accepts .empty = false
  sound : ∀ response, progress.result? = some (.ok response) →
    ∃ inventory joined first second, response = side.respond inventory joined ∧
      progress.encounters = [first, second] ∧
      side.Matches service second.memory inventory joined

/-- A report searches the inventory and, if it finds some, the joined entities. -/
theorem run_report (side : ReportSide α) (service : ReportService) (criteria : SearchCriteria)
    (options : CallOptions) :
    ExceptT.run (side.report service criteria options) =
      match Filter.ofCriteria criteria with
      | .error cause => .done (.error (.validation cause))
      | .ok filter =>
        .call (.find service.collections.inventory filter options) fun reply =>
          match Reporting.answerReply Inventory .searchInventory reply with
          | .error cause => .done (.error cause)
          | .ok inventory =>
            .call (.find (side.collection service.collections)
                (service.join.filter side.field (inventory.map side.keyOf)) options) fun reply =>
              .done ((Reporting.answerReply α side.operation reply).map
                (side.respond inventory)) := by
  rw [report, ExceptT.run_bind, ReportService.run_searchInventory]
  cases Filter.ofCriteria criteria with
  | error cause => rfl
  | ok filter =>
    simp only [ReportService.run_findEntities, Session.call_bind, Session.done_bind]
    congr 1
    funext reply
    cases Reporting.answerReply Inventory .searchInventory reply with
    | error cause => rfl
    | ok inventory =>
      simp only [ExceptT.run_bind, ReportService.run_findEntities, Session.call_bind,
        Session.done_bind]
      congr 1
      funext reply
      cases Reporting.answerReply α side.operation reply <;> rfl

/-- A search for what is joined to inventory finds a side that matches. -/
theorem matches_of_find (side : ReportSide α) {service : ReportService} {memory : Memory}
    {inventory : List Inventory} {joined : List α} (hinventory : inventory ≠ []) {now : Nat}
    {options : CallOptions}
    (h : Reporting.answerReply α side.operation
      (memory.find now (side.collection service.collections)
        (service.join.filter side.field (inventory.map side.keyOf)) options) = .ok joined) :
    side.Matches service memory inventory joined := by
  obtain ⟨docs, hfind, hanswer⟩ := Reporting.answerReply_eq_ok_iff.mp h
  obtain ⟨hdocs, hjoined⟩ := Reporting.answer_eq_ok_iff.mp hanswer
  have hdecoded := Entity.ofDocuments_eq_ok_iff.mp hdocs
  have hkeys : inventory.map side.keyOf ≠ [] := by simpa using hinventory
  have hselected : docs = (memory.documents (side.collection service.collections)).filter fun doc =>
      decide (service.join.Selects side.field (inventory.map side.keyOf) doc) := by
    rw [Memory.eq_of_find_eq_ok hfind]
    congr 1
    funext doc
    rw [Bool.eq_iff_iff, decide_eq_true_iff]
    exact service.join.accepts_filter _ _ doc
  refine ⟨hinventory, hjoined, ?_, hselected ▸ hdecoded⟩
  refine ForeignKeyJoin.links_of_selects side.field hkeys fun key hkey => ?_
  obtain ⟨entity, hentity, rfl⟩ := List.mem_map.mp hkey
  obtain ⟨doc, hdoc, hof⟩ := Entity.exists_mem_of_mem_entities hdecoded hentity
  rw [hselected, List.mem_filter, decide_eq_true_iff] at hdoc
  exact ⟨doc, hdoc.2, side.read_joinedKey doc entity hof⟩

/-- A report that has no response and has asked at most for the inventory is consistent. -/
theorem consistent_of_no_response {side : ReportSide α} {service : ReportService}
    {progress : Progress (Except ReportError ReportResponse)}
    (hasked : progress.encounters.length ≤ 1)
    (hnone : ∀ response, progress.result? ≠ some (.ok response)) :
    side.Consistent service progress where
  selective := by
    rw [List.drop_eq_nil_of_le hasked]
    exact List.forall_mem_nil _
  sound response hresponse := absurd hresponse (hnone response)

/-- A report that has found inventory is consistent as far as the search for what is joined to the
inventory has led it. -/
theorem consistent_of_inventory (side : ReportSide α) {service : ReportService}
    {options : CallOptions} {supply : KeySupply} {inventory : List Inventory}
    (hinventory : inventory ≠ []) {first : Encounter} {encounters : List Encounter}
    {session : Session (Except ReportError ReportResponse)} (memory : Memory)
    (h : Session.Leads supply
      (.call (.find (side.collection service.collections)
          (service.join.filter side.field (inventory.map side.keyOf)) options) fun reply =>
        .done ((Reporting.answerReply α side.operation reply).map (side.respond inventory)))
      encounters session) :
    side.Consistent service ⟨session, memory, first :: encounters⟩ := by
  have hkeys : inventory.map side.keyOf ≠ [] := by simpa using hinventory
  rcases h.of_call with ⟨rfl, rfl⟩ | ⟨now, second, rest, rfl, hlast⟩
  · exact consistent_of_no_response (Nat.le_refl 1) fun _ hresponse => by cases hresponse
  obtain ⟨rfl, rfl⟩ := hlast.of_done
  constructor
  · intro encounter hmem
    obtain rfl := List.mem_singleton.mp hmem
    exact ⟨_, _, rfl, service.join.accepts_filter_empty _ hkeys⟩
  · intro response hresponse
    cases hjoined : Reporting.answerReply α side.operation (Memory.handler supply now
        (.find (side.collection service.collections)
          (service.join.filter side.field (inventory.map side.keyOf)) options) second).1 with
    | error cause =>
      rw [Progress.result?, hjoined] at hresponse
      cases hresponse
    | ok joined =>
      rw [Progress.result?, hjoined] at hresponse
      obtain rfl := Except.ok.inj (Option.some.inj hresponse)
      exact ⟨inventory, joined, _, _, rfl, rfl, side.matches_of_find hinventory hjoined⟩

/-- A report is consistent as far as its encounters have led it. -/
theorem consistent_of_leads (side : ReportSide α) {service : ReportService}
    {criteria : SearchCriteria} {options : CallOptions} {supply : KeySupply}
    {progress : Progress (Except ReportError ReportResponse)}
    (h : Session.Leads supply (ExceptT.run (side.report service criteria options))
      progress.encounters progress.session) : side.Consistent service progress := by
  obtain ⟨session, memory, encounters⟩ := progress
  rw [run_report] at h
  cases hcriteria : Filter.ofCriteria criteria with
  | error cause =>
    rw [hcriteria] at h
    obtain ⟨rfl, rfl⟩ := h.of_done
    exact consistent_of_no_response (Nat.zero_le 1) fun _ hresponse => by cases hresponse
  | ok filter =>
    rw [hcriteria] at h
    rcases h.of_call with ⟨rfl, rfl⟩ | ⟨now, first, rest, rfl, hrest⟩
    · exact consistent_of_no_response (Nat.zero_le 1) fun _ hresponse => by cases hresponse
    dsimp only at hrest
    cases hfirst : Reporting.answerReply Inventory .searchInventory
      (Memory.handler supply now (.find service.collections.inventory filter options) first).1 with
    | error cause =>
      rw [hfirst] at hrest
      obtain ⟨rfl, rfl⟩ := hrest.of_done
      exact consistent_of_no_response (Nat.le_refl 1) fun _ hresponse => by cases hresponse
    | ok inventory =>
      rw [hfirst] at hrest
      obtain ⟨_, -, hanswer⟩ := Reporting.answerReply_eq_ok_iff.mp hfirst
      have hinventory := (Reporting.answer_eq_ok_iff.mp hanswer).2
      exact side.consistent_of_inventory hinventory memory hrest

end ReportSide

namespace ReportService

/-- Combined reports are consistent at every time, whatever other clients do before, between and
after their searches. -/
theorem combinedReports_consistent (service : ReportService) (criteria : SearchCriteria)
    (options : CallOptions) (supply : KeySupply) (memory : Memory) (turns : List Turn) :
    ReportSide.metric.Consistent service
        ((service.metricReport criteria options).runAmong supply turns memory) ∧
      ReportSide.device.Consistent service
        ((service.deviceReport criteria options).runAmong supply turns memory) :=
  ⟨ReportSide.metric.consistent_of_leads (Session.Leads.run_start _ memory turns),
    ReportSide.device.consistent_of_leads (Session.Leads.run_start _ memory turns)⟩

/-- An item that is inserted between the searches does not appear in the response, and a metric of
an item found does. -/
theorem combinedReports_consistent_between :
    let named (id : EntityId) : Document := ⟨[("item_id", .string id.text)]⟩
    let insert (now : Nat) (collection : String) (docs : List Document) : Turn :=
      .other now (.insertMany collection docs .unbounded)
    let memory : Memory := ⟨[("inventory", [named ⟨1⟩]), ("metric", [named ⟨2⟩])], 0⟩
    let turns := [insert 0 "metric" [named .nil], .own 1, insert 2 "inventory" [named ⟨2⟩],
      insert 3 "metric" [named ⟨1⟩], .own 4]
    let progress :=
      (({} : ReportService).metricReport .empty .unbounded).runAmong (fun _ => ⟨"k"⟩) turns memory
    let response : ReportResponse :=
      { inventory := [{ itemId := ⟨1⟩ }], metric := some [{ key := some ⟨"k"⟩, itemId := ⟨1⟩ }] }
    progress.result? = some (.ok response) ∧
      ∃ inventory joined first second, response = ReportSide.metric.respond inventory joined ∧
        progress.encounters = [first, second] ∧
        ReportSide.metric.Matches {} second.memory inventory joined := by
  intro named insert memory turns progress response
  have hresult : progress.result? = some (.ok response) := by decide
  refine ⟨hresult, ?_⟩
  exact (combinedReports_consistent {} .empty .unbounded (fun _ => ⟨"k"⟩) memory turns).1.sound
    response hresult

end ReportService

end Stockroom
