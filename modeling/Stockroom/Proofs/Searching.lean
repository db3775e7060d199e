import Mathlib.Data.List.Forall2
import Stockroom.Proofs.Codec
import Stockroom.Reporting.Response
import Stockroom.Store.Memory

/-!
# Searches as single requests

A search of the reporting service is one request to the store and a reading of the reply. Stating
this once settles what a search does with any store, and in particular that with the store in memory
it answers with the entities of the documents that its filter accepts.
-/

namespace Stockroom

namespace Entity

variable {α : Type} [Entity α]

/-- A list of documents is decoded if each document is, in the order of the documents. -/
theorem ofDocuments_eq_ok_iff {docs : List Document} {entities : List α} :
    ofDocuments docs = .ok entities ↔
      List.Forall₂ (fun doc entity => ofDocument doc = .ok entity) docs entities :=
  mapM_eq_ok_iff

/-- Each of the entities that documents are decoded to is the entity of a document. -/
theorem exists_mem_of_mem_entities {docs : List Document} {entities : List α}
    (h : List.Forall₂ (fun doc entity => ofDocument doc = .ok entity) docs entities) {entity : α}
    (hmem : entity ∈ entities) : ∃ doc ∈ docs, ofDocument doc = .ok entity := by
  induction h with
  | nil => cases hmem
  | cons hhead _ ih =>
    rcases List.mem_cons.mp hmem with rfl | hrest
    · exact ⟨_, List.mem_cons_self, hhead⟩
    · obtain ⟨doc, hdoc, hof⟩ := ih hrest
      exact ⟨doc, List.mem_cons_of_mem _ hdoc, hof⟩

end Entity

namespace Session

variable {α β : Type}

/-- A session that is done leaves everything to its continuation. -/
theorem done_bind (value : α) (f : α → Session β) : (done value >>= f) = f value := rfl

/-- A continuation waits for the replies. -/
theorem call_bind (request : Request) (next : Stored request.Reply → Session α)
    (f : α → Session β) :
    (call request next >>= f) = call request fun reply => next reply >>= f := rfl

end Session

namespace Reporting

/-- The result of a reporting computation with a store, and the state in which it leaves the
store. -/
def run {σ α : Type} (handler : Session.Handler σ) (computation : Reporting α) (state : σ) :
    Except ReportError α × σ :=
  Session.run handler (ExceptT.run computation) state

/-- Results, or the complaint that there are none. -/
def orNoResults {α : Type} (operation : Operation) : List α → Except ReportError (List α)
  | [] => .error (.noResults operation)
  | items => .ok items

/-- The complaint that there are no results does not concern a document. -/
theorem orNoResults_ne_codec {α : Type} (operation : Operation) (items : List α)
    (cause : CodecError) : orNoResults operation items ≠ .error (.codec cause) := by
  cases items <;> rintro ⟨⟩

/-- What a search answers with the documents that it selects: their entities in the order of the
documents, the error of the first document that is no entity, or a complaint if there are none. -/
def answer (α : Type) [Entity α] (operation : Operation) (docs : List Document) :
    Except ReportError (List α) :=
  match docs.mapM Entity.ofDocument with
  | .error cause => .error (.codec cause)
  | .ok entities => orNoResults operation entities

/-- Documents that are decoded are answered with, if there are any. -/
theorem answer_of_ofDocuments {α : Type} [Entity α] {operation : Operation}
    {docs : List Document} {entities : List α} (h : Entity.ofDocuments docs = .ok entities) :
    answer α operation docs = orNoResults operation entities := by
  rw [Entity.ofDocuments] at h
  rw [answer, h]

/-- The first document that is no entity decides the answer. -/
theorem answer_append_cons {α : Type} [Entity α] {operation : Operation}
    {before after : List Document} {doc : Document} {cause : CodecError}
    (hbefore : ∀ earlier ∈ before, ∃ entity : α, Entity.ofDocument earlier = .ok entity)
    (hdoc : Entity.ofDocument (α := α) doc = .error cause) :
    answer α operation (before ++ doc :: after) = .error (.codec cause) := by
  have hdocs : Entity.ofDocuments (α := α) (before ++ doc :: after) = .error cause :=
    Entity.ofDocuments_eq_error_iff.mpr ⟨before, doc, after, rfl, hbefore, hdoc⟩
  rw [Entity.ofDocuments] at hdocs
  rw [answer, hdocs]

/-- A request passes a failure of the store on. -/
theorem run_request (operation : Operation) (req : Request) :
    ExceptT.run (request operation req) =
      .call req fun reply => .done (reply.mapError (.store operation)) := rfl

/-- Documents are decoded without the store. -/
theorem run_decodeAll {α : Type} [Entity α] (docs : List Document) :
    ExceptT.run (decodeAll (α := α) docs) = .done (match Entity.ofDocuments docs with
      | .error cause => .error (.codec cause)
      | .ok entities => .ok entities) := by
  rw [decodeAll, ofExcept]
  cases Entity.ofDocuments (α := α) docs <;> rfl

/-- Whether there are results is found out without the store. -/
theorem run_nonEmpty {α : Type} (operation : Operation) (items : List α) :
    ExceptT.run (nonEmpty operation items) = .done (orNoResults operation items) := by
  cases items <;> rfl

/-- What an operation makes of a reply: a store error is an error of the operation. -/
def onReply {α β : Type} (operation : Operation) (read : β → Except ReportError α) :
    Stored β → Except ReportError α
  | .error cause => .error (.store operation cause)
  | .ok found => read found

/-- What a search makes of a reply: a store error is an error of the search. -/
def answerReply (α : Type) [Entity α] (operation : Operation) :
    Stored (List Document) → Except ReportError (List α)
  | .error cause => .error (.store operation cause)
  | .ok docs => answer α operation docs

/-- A search answers a reply by answering with its documents. -/
theorem answerReply_eq_onReply (α : Type) [Entity α] (operation : Operation) :
    answerReply α operation = onReply operation (answer α operation) := by
  funext reply
  cases reply <;> rfl

/-- An answer that succeeds holds the entities of all documents, at least one. -/
theorem answer_eq_ok_iff {α : Type} [Entity α] {operation : Operation} {docs : List Document}
    {entities : List α} : answer α operation docs = .ok entities ↔
      Entity.ofDocuments docs = .ok entities ∧ entities ≠ [] := by
  unfold answer Entity.ofDocuments
  cases docs.mapM (Entity.ofDocument (α := α)) with
  | error cause => simp
  | ok found =>
    cases found with
    | nil => simp [orNoResults]
    | cons entity rest =>
      simp only [orNoResults, Except.ok.injEq]
      exact ⟨fun h => ⟨h, h ▸ List.cons_ne_nil _ _⟩, And.left⟩

/-- A reply that leads to entities holds their documents. -/
theorem answerReply_eq_ok_iff {α : Type} [Entity α] {operation : Operation}
    {reply : Stored (List Document)} {entities : List α} :
    answerReply α operation reply = .ok entities ↔
      ∃ docs, reply = .ok docs ∧ answer α operation docs = .ok entities := by
  cases reply with
  | error cause => simp [answerReply]
  | ok docs => simp [answerReply]

end Reporting

namespace ReportService

/-- A search makes one request and answers the reply. -/
theorem run_findEntities (α : Type) [Entity α] (operation : Operation) (collection : String)
    (filter : Filter) (options : CallOptions) :
    ExceptT.run (findEntities α operation collection filter options) =
      .call (.find collection filter options) fun reply =>
        .done (Reporting.answerReply α operation reply) := by
  rw [findEntities, ExceptT.run_bind, Reporting.run_request, Session.call_bind]
  congr 1
  funext reply
  cases reply with
  | error cause => rfl
  | ok docs =>
    have hdecode :
        ExceptT.run (Reporting.decodeAll (α := α) docs >>= Reporting.nonEmpty operation) =
          .done (Reporting.answer α operation docs) := by
      rw [ExceptT.run_bind, Reporting.run_decodeAll, Session.done_bind, Reporting.answer,
        Entity.ofDocuments]
      cases docs.mapM (Entity.ofDocument (α := α)) with
      | error cause => rfl
      | ok entities => exact Reporting.run_nonEmpty operation entities
    exact hdecode

/-- The weight distribution makes one request and reads the rows. -/
theorem run_weightDistribution (service : ReportService) (options : CallOptions) :
    ExceptT.run (service.weightDistribution options) =
      .call (.aggregate service.collections.inventory weightPipeline options) fun reply =>
        .done (Reporting.onReply .weightDistribution
          (fun rows => (rows.mapM ProductWeights.ofGroup).mapError .codec) reply) := by
  rw [weightDistribution, ExceptT.run_bind, Reporting.run_request, Session.call_bind]
  congr 1
  funext reply
  cases reply <;> rfl

/-- An inventory search is refused before the store is asked, or is one search. -/
theorem run_searchInventory (service : ReportService) (criteria : SearchCriteria)
    (options : CallOptions) :
    ExceptT.run (service.searchInventory criteria options) =
      match Filter.ofCriteria criteria with
      | .error cause => .done (.error (.validation cause))
      | .ok filter =>
        ExceptT.run (findEntities Inventory .searchInventory service.collections.inventory filter
          options) := by
  unfold searchInventory Reporting.ofExcept
  cases Filter.ofCriteria criteria <;> rfl

end ReportService

namespace Memory

/-- A call in time on a collection with a proper name passes the checks. -/
theorem checkCall_eq_ok {now : Nat} {collection : String} {options : CallOptions}
    (hlive : options.isExpired now = false) (hname : Collection.isName collection.toList = true)
    (operation : String) : checkCall now operation collection options = .ok () := by
  simp [checkCall, CallOptions.check, hlive, Collection.validate, hname, bind, Except.bind, pure,
    Except.pure]

/-- A call that comes too late is refused by the checks. -/
theorem checkCall_eq_error {now : Nat} {options : CallOptions}
    (hexpired : options.isExpired now = true) (operation collection : String) :
    checkCall now operation collection options = .error (.deadlineExceeded operation) := by
  simp only [checkCall, CallOptions.check, hexpired, if_true, bind, Except.bind]

/-- A search in time finds the documents that the filter accepts, in their order. -/
theorem find_eq_ok (memory : Memory) {now : Nat} {collection : String} {options : CallOptions}
    (hlive : options.isExpired now = false) (hname : Collection.isName collection.toList = true)
    (filter : Filter) : memory.find now collection filter options =
      .ok ((memory.documents collection).filter filter.accepts) := by
  rw [find, checkCall_eq_ok hlive hname]
  rfl

/-- A search that comes too late is refused. -/
theorem find_eq_error (memory : Memory) {now : Nat} {options : CallOptions}
    (hexpired : options.isExpired now = true) (collection : String) (filter : Filter) :
    memory.find now collection filter options = .error (.deadlineExceeded "find") := by
  rw [find, checkCall_eq_error hexpired]
  rfl

/-- An aggregation in time answers with the rows of its pipeline. -/
theorem aggregate_eq_ok (memory : Memory) {now : Nat} {collection : String} {options : CallOptions}
    (hlive : options.isExpired now = false) (hname : Collection.isName collection.toList = true)
    (pipeline : Pipeline) : memory.aggregate now collection pipeline options =
      .ok (pipeline.apply (memory.documents collection)) := by
  rw [aggregate, checkCall_eq_ok hlive hname]
  rfl

/-- A search that succeeds finds the documents that the filter accepts. -/
theorem eq_of_find_eq_ok {memory : Memory} {now : Nat} {collection : String} {filter : Filter}
    {options : CallOptions} {docs : List Document}
    (h : memory.find now collection filter options = .ok docs) :
    docs = (memory.documents collection).filter filter.accepts := by
  rw [find] at h
  cases hcheck : checkCall now "find" collection options with
  | error cause => simp [hcheck, bind, Except.bind] at h
  | ok _ =>
    rw [hcheck] at h
    exact (Except.ok.inj h).symm

end Memory

namespace ReportService

/-- With the store in memory a search in time answers with the documents of its collection that the
filter accepts, and changes nothing. -/
theorem findEntities_memory {α : Type} [Entity α] (operation : Operation) {collection : String}
    (filter : Filter) {options : CallOptions} {now : Nat} (supply : KeySupply) (memory : Memory)
    (hname : Collection.isName collection.toList = true)
    (hlive : options.isExpired now = false) :
    (findEntities α operation collection filter options).run (Memory.handler supply now) memory =
      (Reporting.answer α operation ((memory.documents collection).filter filter.accepts),
        memory) := by
  rw [Reporting.run, run_findEntities]
  simp only [Session.run, Memory.handler, memory.find_eq_ok hlive hname, Reporting.answerReply]

/-- With the store in memory a search that comes too late is refused, and changes nothing. -/
theorem findEntities_expired {α : Type} [Entity α] (operation : Operation) (collection : String)
    (filter : Filter) {options : CallOptions} {now : Nat} (supply : KeySupply) (memory : Memory)
    (hexpired : options.isExpired now = true) :
    (findEntities α operation collection filter options).run (Memory.handler supply now) memory =
      (.error (.store operation (.deadlineExceeded "find")), memory) := by
  rw [Reporting.run, run_findEntities]
  simp only [Session.run, Memory.handler, memory.find_eq_error hexpired, Reporting.answerReply]

end ReportService

end Stockroom
