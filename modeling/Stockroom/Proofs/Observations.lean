import Stockroom.Proofs.Searching

/-!
# Reporting computations with any store

A store may reply to a request in any way, and fail at any time. All that can be observed of a
computation is then which requests it makes, which replies it gets and what it comes to. This file
states the rules for that, proves them for computations that make one request at most, and shows
how they carry over to one more request.
-/

namespace Stockroom

/-- A request with the reply to it. -/
structure Exchange where
  request : Request
  reply : Stored request.Reply

/-- The error of a reply that is one. -/
def Exchange.error? (exchange : Exchange) : Option StoreError :=
  match exchange.reply with
  | .error cause => some cause
  | .ok _ => none

/-- Whether a request is to insert documents. -/
def Request.isInsert : Request → Bool
  | insertMany .. => true
  | _ => false

/-- The requests of a session and the replies of a store, in their order. -/
def Session.exchanges {σ α : Type} (handler : Handler σ) : Session α → σ → List Exchange
  | done _, _ => []
  | call request next, state =>
    let (reply, state) := handler request state
    ⟨request, reply⟩ :: exchanges handler (next reply) state

/-- What a reporting computation asks of a store and what it comes to. -/
structure Observed (α : Type) where
  exchanges : List Exchange
  result : Except ReportError α

namespace Reporting

/-- What can be observed of a reporting computation with a store in a state. -/
def observe {σ α : Type} (handler : Session.Handler σ) (computation : Reporting α) (state : σ) :
    Observed α :=
  ⟨Session.exchanges handler (ExceptT.run computation) state, (run handler computation state).1⟩

/-- Whether reading a reply fails only because of a document or because there are no results. -/
def ReadsFor {α β : Type} (operation : Operation) (read : β → Except ReportError α) : Prop :=
  ∀ found error, read found = .error error →
    (∃ cause, error = .codec cause) ∨ error = .noResults operation

end Reporting

namespace Observed

variable {α : Type}

/-- The store is not asked. -/
def Unasked (observed : Observed α) (result : Except ReportError α) : Prop :=
  observed = ⟨[], result⟩

/-- One request for an operation, the reply to which is read. -/
def once (operation : Operation) (request : Request) (read : request.Reply → Except ReportError α)
    (reply : Stored request.Reply) : Observed α :=
  ⟨[⟨request, reply⟩], Reporting.onReply operation read reply⟩

/-- The store is asked once, for an operation, and the reply is read. -/
def AsksOnce (observed : Observed α) (operation : Operation) (request : Request)
    (read : request.Reply → Except ReportError α) : Prop :=
  ∃ reply, observed = once operation request read reply

end Observed

/-- The rules that all calls follow, whatever the store replies. -/
structure Observed.Orderly {α : Type} (steps : List (Operation × String)) (mayInsert : Bool)
    (options : CallOptions) (observed : Observed α) : Prop where
  /-- The requests go to the collections of the steps, in their order. -/
  collections : observed.exchanges.map (fun exchange => exchange.request.collection) <+:
    steps.map Prod.snd
  /-- The store gets what the caller asks of the call. -/
  options : ∀ exchange ∈ observed.exchanges, exchange.request.options = options
  /-- A search inserts nothing. -/
  reads : mayInsert = false → ∀ exchange ∈ observed.exchanges, exchange.request.isInsert = false
  /-- What is refused does not reach the store. -/
  validation : ∀ cause, observed.result = .error (.validation cause) → observed.exchanges = []
  /-- Nothing is asked after a store error. -/
  dropLast : ∀ exchange ∈ observed.exchanges.dropLast, exchange.error? = none
  /-- A store error is the result, as an error of its step, and there are no other such results. -/
  store : ∀ operation cause, observed.result = .error (.store operation cause) ↔
    ∃ earlier last, observed.exchanges = earlier ++ [last] ∧ last.error? = some cause ∧
      (steps.map Prod.fst)[earlier.length]? = some operation
  /-- Documents are at fault only in a reply that is the last one. -/
  codec : ∀ cause, observed.result = .error (.codec cause) →
    ∃ earlier last, observed.exchanges = earlier ++ [last] ∧ last.error? = none
  /-- A lack of results is one of the last step. -/
  noResults : ∀ operation, observed.result = .error (.noResults operation) →
    (steps.map Prod.fst)[observed.exchanges.length - 1]? = some operation

namespace Reporting

/-- What is observed depends only on the session of a computation. -/
theorem observe_congr {σ α : Type} {first second : Reporting α}
    (h : ExceptT.run first = ExceptT.run second) (handler : Session.Handler σ) (state : σ) :
    observe handler first state = observe handler second state := by
  rw [observe, observe, run, run, h]

/-- Nothing is asked by a computation that is done. -/
theorem observe_of_done {σ α : Type} {computation : Reporting α} {result : Except ReportError α}
    (h : ExceptT.run computation = .done result) (handler : Session.Handler σ) (state : σ) :
    (observe handler computation state).Unasked result := by
  rw [Observed.Unasked, observe, run, h]
  rfl

/-- A computation of one request and a reading of the reply asks once. -/
theorem observe_of_call {σ α : Type} {computation : Reporting α} {operation : Operation}
    {request : Request} {read : request.Reply → Except ReportError α}
    (h : ExceptT.run computation = .call request fun reply => .done (onReply operation read reply))
    (handler : Session.Handler σ) (state : σ) :
    (observe handler computation state).AsksOnce operation request read := by
  refine ⟨(handler request state).1, ?_⟩
  rw [observe, run, h]
  rfl

/-- A search reads its reply for its own operation. -/
theorem readsFor_answer (α : Type) [Entity α] (operation : Operation) :
    ReadsFor operation (answer α operation) := by
  intro docs error h
  rw [answer] at h
  cases hdecoded : docs.mapM (Entity.ofDocument (α := α)) with
  | error cause =>
    rw [hdecoded] at h
    exact Or.inl ⟨cause, (Except.error.inj h).symm⟩
  | ok entities =>
    rw [hdecoded] at h
    cases entities with
    | nil => exact Or.inr (Except.error.inj h).symm
    | cons entity rest => cases h

/-- Documents that are not decoded fail an operation only if there are none. -/
theorem readsFor_orNoResults {α : Type} (operation : Operation) :
    ReadsFor operation (orNoResults (α := α) operation) := by
  intro docs error h
  cases docs with
  | nil => exact Or.inr (Except.error.inj h).symm
  | cons doc rest => cases h

/-- A reading that fails because of a document only. -/
theorem readsFor_mapError {α β : Type} (operation : Operation) (read : β → Except CodecError α) :
    ReadsFor operation fun found => (read found).mapError ReportError.codec := by
  intro found error h
  dsimp only at h
  cases hread : read found with
  | error cause =>
    rw [hread] at h
    exact Or.inl ⟨cause, (Except.error.inj h).symm⟩
  | ok value =>
    rw [hread] at h
    cases h

end Reporting

namespace Observed

variable {α : Type} {steps : List (Operation × String)} {mayInsert : Bool} {options : CallOptions}

/-- A call that does not ask the store is orderly, if it does not complain about a reply. -/
theorem Unasked.orderly {observed : Observed α} {result : Except ReportError α}
    (h : observed.Unasked result) (hresult : ∀ error, result = .error error →
      (∃ cause, error = .validation cause) ∨
        ∃ operation, error = .noResults operation ∧ (steps.map Prod.fst)[0]? = some operation) :
    observed.Orderly steps mayInsert options := by
  obtain rfl := h
  refine ⟨List.nil_prefix, List.forall_mem_nil _, fun _ => List.forall_mem_nil _, fun _ _ => rfl,
    List.forall_mem_nil _, fun operation cause => ⟨fun hstore => ?_, fun hstore => ?_⟩,
    fun cause hcodec => ?_, fun operation hnone => ?_⟩
  · rcases hresult _ hstore with ⟨_, h⟩ | ⟨_, h, -⟩ <;> cases h
  · obtain ⟨earlier, last, hlast, -⟩ := hstore
    cases earlier <;> cases hlast
  · rcases hresult _ hcodec with ⟨_, h⟩ | ⟨_, h, -⟩ <;> cases h
  · rcases hresult _ hnone with ⟨_, h⟩ | ⟨other, h, hfirst⟩
    · cases h
    · cases h
      exact hfirst

/-- A call that asks once is orderly. -/
theorem orderly_once {operation : Operation} {request : Request}
    {read : request.Reply → Except ReportError α} (hread : Reporting.ReadsFor operation read)
    (hinsert : request.isInsert = true → mayInsert = true) (reply : Stored request.Reply) :
    (once operation request read reply).Orderly ((operation, request.collection) :: steps)
      mayInsert request.options := by
  have hlast {earlier : List Exchange} {last : Exchange}
      (h : [⟨request, reply⟩] = earlier ++ [last]) : earlier = [] ∧ last = ⟨request, reply⟩ := by
    rcases List.append_eq_singleton_iff.mp h.symm with ⟨rfl, hsame⟩ | ⟨-, hnone⟩
    · exact ⟨rfl, List.singleton_inj.mp hsame⟩
    · cases hnone
  have hmayInsert : mayInsert = false → request.isInsert = false := by
    intro hfalse
    cases hrequest : request.isInsert with
    | false => rfl
    | true => exact absurd (hinsert hrequest) (by simp [hfalse])
  refine
    { collections := ⟨_, rfl⟩
      options := List.forall_mem_singleton.mpr rfl
      reads := fun hfalse => List.forall_mem_singleton.mpr (hmayInsert hfalse)
      dropLast := List.forall_mem_nil _
      validation := fun cause hvalidation => ?validation
      store := fun other cause => ⟨fun hstore => ?error, fun hstore => ?store⟩
      codec := fun cause hcodec => ?codec
      noResults := fun other hnone => ?noResults }
  case validation =>
    cases reply with
    | error failure => cases hvalidation
    | ok found => rcases hread found _ hvalidation with ⟨_, h⟩ | h <;> cases h
  case error =>
    cases reply with
    | error failure =>
      cases hstore
      exact ⟨[], _, rfl, rfl, rfl⟩
    | ok found => rcases hread found _ hstore with ⟨_, h⟩ | h <;> cases h
  case store =>
    obtain ⟨earlier, last, hexchanges, herror, hoperation⟩ := hstore
    obtain ⟨rfl, rfl⟩ := hlast hexchanges
    obtain rfl := Option.some.inj hoperation
    cases reply with
    | error failure =>
      obtain rfl := Option.some.inj herror
      rfl
    | ok found => cases herror
  case codec =>
    cases reply with
    | error failure => cases hcodec
    | ok found => exact ⟨[], _, rfl, rfl⟩
  case noResults =>
    cases reply with
    | error failure => cases hnone
    | ok found =>
      rcases hread found _ hnone with ⟨_, h⟩ | h <;> cases h
      rfl

/-- A search is orderly. -/
theorem orderly_find (α : Type) [Entity α] (operation : Operation) (collection : String)
    (filter : Filter) (options : CallOptions) (more : List (Operation × String))
    (reply : Stored (List Document)) :
    (once operation (.find collection filter options) (Reporting.answer α operation) reply).Orderly
      ((operation, collection) :: more) false options :=
  orderly_once (Reporting.readsFor_answer α operation)
    (fun hinsert : Request.isInsert (.find collection filter options) = true => by cases hinsert)
    reply

/-- A call that asks once is orderly, whatever the reply. -/
theorem AsksOnce.orderly {observed : Observed α} {operation : Operation} {request : Request}
    {read : request.Reply → Except ReportError α} (h : observed.AsksOnce operation request read)
    (hread : Reporting.ReadsFor operation read)
    (hinsert : request.isInsert = true → mayInsert = true) :
    observed.Orderly ((operation, request.collection) :: steps) mayInsert request.options := by
  obtain ⟨reply, rfl⟩ := h
  exact orderly_once hread hinsert reply

/-- Whether a call is orderly does not depend on what it makes of a success. -/
theorem Orderly.map {β : Type} {observed : Observed α}
    (h : observed.Orderly steps mayInsert options) (f : α → β) :
    Orderly steps mayInsert options ⟨observed.exchanges, observed.result.map f⟩ := by
  have hresult (error : ReportError) :
      observed.result.map f = .error error ↔ observed.result = .error error := by
    cases observed.result <;> simp [Except.map]
  exact ⟨h.collections, h.options, h.reads, fun cause hcause => h.validation cause
    ((hresult _).mp hcause), h.dropLast, fun operation cause => (hresult _).trans
    (h.store operation cause), fun cause hcause => h.codec cause ((hresult _).mp hcause),
    fun operation hnone => h.noResults operation ((hresult _).mp hnone)⟩

/-- A call is orderly if it goes on in an orderly way after a reply that was not an error. -/
theorem Orderly.cons {observed : Observed α} {operation : Operation} {exchange : Exchange}
    (h : observed.Orderly steps mayInsert options) (hne : observed.exchanges ≠ [])
    (hoptions : exchange.request.options = options)
    (hinsert : exchange.request.isInsert = false) (herror : exchange.error? = none) :
    Orderly ((operation, exchange.request.collection) :: steps) mayInsert options
      ⟨exchange :: observed.exchanges, observed.result⟩ where
  collections := (List.prefix_cons_inj _).mpr h.collections
  options := List.forall_mem_cons.mpr ⟨hoptions, h.options⟩
  reads hfalse := List.forall_mem_cons.mpr ⟨hinsert, h.reads hfalse⟩
  validation cause hvalidation := absurd (h.validation cause hvalidation) hne
  dropLast := by
    rw [List.dropLast_cons_of_ne_nil hne]
    exact List.forall_mem_cons.mpr ⟨herror, h.dropLast⟩
  store other cause := by
    rw [h.store]
    constructor
    · rintro ⟨earlier, last, hexchanges, hlast, hoperation⟩
      exact ⟨exchange :: earlier, last, congrArg (exchange :: ·) hexchanges, hlast, hoperation⟩
    · rintro ⟨earlier, last, hexchanges, hlast, hoperation⟩
      cases earlier with
      | nil => exact absurd (List.cons.inj hexchanges).2 hne
      | cons first rest =>
        exact ⟨rest, last, (List.cons.inj hexchanges).2, hlast, hoperation⟩
  codec cause hcodec := by
    obtain ⟨earlier, last, hexchanges, hlast⟩ := h.codec cause hcodec
    exact ⟨exchange :: earlier, last, congrArg (exchange :: ·) hexchanges, hlast⟩
  noResults other hnone := by
    have hlength : observed.exchanges.length - 1 + 1 = observed.exchanges.length :=
      Nat.sub_add_cancel (List.length_pos_iff.mpr hne)
    change (operation :: steps.map Prod.fst)[observed.exchanges.length + 1 - 1]? = some other
    rw [Nat.add_sub_cancel, ← hlength, List.getElem?_cons_succ]
    exact h.noResults other hnone

end Observed

end Stockroom
