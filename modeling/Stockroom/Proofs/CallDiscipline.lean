import Stockroom.Proofs.CombinedReports
import Stockroom.Proofs.Observations

/-!
# What calls ask of a store

This file states for every call of the service which requests it makes, in which order, and what it
makes of the replies, whatever they are. A request is made only after the checks that need no store,
and a store error ends the call that it answers.
-/

namespace Stockroom

namespace Observed

/-- A batch is inserted in one request, unless it is empty. -/
def Inserts {β : Type} [Entity β] (observed : Observed (List DocumentKey)) (operation : Operation)
    (collection : String) (entities : List β) (options : CallOptions) : Prop :=
  if entities = [] then observed.Unasked (.ok [])
  else
    observed.AsksOnce operation
      (.insertMany collection (entities.map Entity.toDocument) options) .ok

/-- The inventory is searched, and only if that leads to items, what is joined to them. -/
def Reports {β : Type} [Entity β] (observed : Observed ReportResponse) (side : ReportSide β)
    (service : ReportService) (criteria : SearchCriteria) (options : CallOptions) : Prop :=
  match Filter.ofCriteria criteria with
  | .error cause => observed.Unasked (.error (.validation cause))
  | .ok filter =>
    let first : Request := .find service.collections.inventory filter options
    ∃ found : Stored first.Reply,
      match Reporting.onReply .searchInventory (Reporting.answer Inventory .searchInventory)
        found with
      | .error cause => observed = ⟨[⟨first, found⟩], .error cause⟩
      | .ok inventory =>
        let second : Request := .find (side.collection service.collections)
          (service.join.filter side.field (inventory.map side.keyOf)) options
        ∃ joined : Stored second.Reply,
          observed = ⟨[⟨first, found⟩, ⟨second, joined⟩],
            (Reporting.onReply side.operation (Reporting.answer β side.operation) joined).map
              (side.respond inventory)⟩

end Observed

/-- A call of the service with its arguments. -/
inductive ServiceCall
  | searchInventory (criteria : SearchCriteria)
  | searchMetrics (inventory : List Inventory)
  | searchDevices (inventory : List Inventory)
  | searchByFieldValue (collection : String) (pairs : List FieldValue)
  | weightDistribution
  | insertInventory (items : List Inventory)
  | insertMetrics (metrics : List Metric)
  | insertDevices (devices : List Device)
  | insertReports (reports : List Report)
  | metricReport (criteria : SearchCriteria)
  | deviceReport (criteria : SearchCriteria)

namespace ServiceCall

/-- What a call answers if it succeeds. -/
abbrev Answer : ServiceCall → Type
  | searchInventory _ => List Inventory
  | searchMetrics _ => List Metric
  | searchDevices _ => List Device
  | searchByFieldValue _ _ => List Document
  | weightDistribution => List ProductWeights
  | insertInventory _ => List DocumentKey
  | insertMetrics _ => List DocumentKey
  | insertDevices _ => List DocumentKey
  | insertReports _ => List DocumentKey
  | metricReport _ => ReportResponse
  | deviceReport _ => ReportResponse

/-- The computation of a call. -/
def computation (service : ReportService) (options : CallOptions) :
    (call : ServiceCall) → Reporting call.Answer
  | searchInventory criteria => service.searchInventory criteria options
  | searchMetrics inventory => service.searchMetrics inventory options
  | searchDevices inventory => service.searchDevices inventory options
  | searchByFieldValue collection pairs =>
    ReportService.searchByFieldValue collection pairs options
  | weightDistribution => service.weightDistribution options
  | insertInventory items => service.insertInventory items options
  | insertMetrics metrics => service.insertMetrics metrics options
  | insertDevices devices => service.insertDevices devices options
  | insertReports reports => service.insertReports reports options
  | metricReport criteria => service.metricReport criteria options
  | deviceReport criteria => service.deviceReport criteria options

/-- Which requests a call makes and what it makes of the replies. -/
def Answered (service : ReportService) (options : CallOptions) :
    (call : ServiceCall) → Observed call.Answer → Prop
  | searchInventory criteria, observed =>
    match Filter.ofCriteria criteria with
    | .error cause => observed.Unasked (.error (.validation cause))
    | .ok filter =>
      observed.AsksOnce .searchInventory (.find service.collections.inventory filter options)
        (Reporting.answer Inventory .searchInventory)
  | searchMetrics inventory, observed =>
    observed.AsksOnce .searchMetrics
      (.find service.collections.metric
        (service.join.filter "item_id" (inventory.map Inventory.itemId)) options)
      (Reporting.answer Metric .searchMetrics)
  | searchDevices inventory, observed =>
    observed.AsksOnce .searchDevices
      (.find service.collections.device
        (service.join.filter "device_id" (inventory.map Inventory.deviceId)) options)
      (Reporting.answer Device .searchDevices)
  | searchByFieldValue collection pairs, observed =>
    match Filter.ofFieldValues pairs with
    | .error cause => observed.Unasked (.error (.validation cause))
    | .ok none => observed.Unasked (.error (.noResults .searchByFieldValue))
    | .ok (some filter) =>
      observed.AsksOnce .searchByFieldValue (.find collection filter options)
        (Reporting.orNoResults .searchByFieldValue)
  | weightDistribution, observed =>
    observed.AsksOnce .weightDistribution
      (.aggregate service.collections.inventory
        ⟨[⟨"name", [⟨"total_weight", "total_weight"⟩, ⟨"waste_weight", "waste_weight"⟩,
          ⟨"sold_weight", "sold_weight"⟩]⟩]⟩ options)
      fun rows => (rows.mapM ProductWeights.ofGroup).mapError .codec
  | insertInventory items, observed =>
    observed.Inserts .insertInventory service.collections.inventory items options
  | insertMetrics metrics, observed =>
    observed.Inserts .insertMetrics service.collections.metric metrics options
  | insertDevices devices, observed =>
    observed.Inserts .insertDevices service.collections.device devices options
  | insertReports reports, observed =>
    observed.Inserts .insertReports service.collections.report reports options
  | metricReport criteria, observed => observed.Reports ReportSide.metric service criteria options
  | deviceReport criteria, observed => observed.Reports ReportSide.device service criteria options

/-- The operations and collections of the requests that a call makes at most. -/
def steps (service : ReportService) : ServiceCall → List (Operation × String)
  | searchInventory _ => [(.searchInventory, service.collections.inventory)]
  | searchMetrics _ => [(.searchMetrics, service.collections.metric)]
  | searchDevices _ => [(.searchDevices, service.collections.device)]
  | searchByFieldValue collection _ => [(.searchByFieldValue, collection)]
  | weightDistribution => [(.weightDistribution, service.collections.inventory)]
  | insertInventory _ => [(.insertInventory, service.collections.inventory)]
  | insertMetrics _ => [(.insertMetrics, service.collections.metric)]
  | insertDevices _ => [(.insertDevices, service.collections.device)]
  | insertReports _ => [(.insertReports, service.collections.report)]
  | metricReport _ => [(.searchInventory, service.collections.inventory),
      (.searchMetrics, service.collections.metric)]
  | deviceReport _ => [(.searchInventory, service.collections.inventory),
      (.searchDevices, service.collections.device)]

/-- Whether a call is to insert documents. -/
def isInsert : ServiceCall → Bool
  | insertInventory _ => true
  | insertMetrics _ => true
  | insertDevices _ => true
  | insertReports _ => true
  | _ => false

end ServiceCall

namespace ReportService

variable {σ : Type} (handler : Session.Handler σ) (state : σ)

/-- A search asks once. -/
theorem findEntities_asksOnce (α : Type) [Entity α] (operation : Operation) (collection : String)
    (filter : Filter) (options : CallOptions) :
    (Reporting.observe handler (findEntities α operation collection filter options) state).AsksOnce
      operation (.find collection filter options) (Reporting.answer α operation) := by
  have hrun := run_findEntities α operation collection filter options
  rw [Reporting.answerReply_eq_onReply] at hrun
  exact Reporting.observe_of_call hrun handler state

/-- The weight distribution asks once. -/
theorem weightDistribution_asksOnce (service : ReportService) (options : CallOptions) :
    (Reporting.observe handler (service.weightDistribution options) state).AsksOnce
      .weightDistribution (.aggregate service.collections.inventory weightPipeline options)
      fun rows => (rows.mapM ProductWeights.ofGroup).mapError .codec :=
  Reporting.observe_of_call (service.run_weightDistribution options) handler state

/-- An insertion asks once, unless the batch is empty. -/
theorem insertEntities_inserts {α : Type} [Entity α] (operation : Operation) (collection : String)
    (entities : List α) (options : CallOptions) :
    (Reporting.observe handler (insertEntities operation collection entities options) state).Inserts
      operation collection entities options := by
  rw [Observed.Inserts]
  split
  case isTrue hempty =>
    subst hempty
    exact Reporting.observe_of_done rfl handler state
  case isFalse hne =>
    refine Reporting.observe_of_call ?_ handler state
    rw [insertEntities, if_neg (by simpa using hne), Reporting.run_request]
    congr 1
    funext reply
    cases reply <;> rfl

/-- A search by field and value asks once, if a pair is usable and its value is supported. -/
theorem run_searchByFieldValue (collection : String) (pairs : List FieldValue)
    (options : CallOptions) :
    ExceptT.run (searchByFieldValue collection pairs options) =
      match Filter.ofFieldValues pairs with
      | .error cause => .done (.error (.validation cause))
      | .ok none => .done (.error (.noResults .searchByFieldValue))
      | .ok (some filter) => .call (.find collection filter options) fun reply =>
          .done (Reporting.onReply .searchByFieldValue
            (Reporting.orNoResults .searchByFieldValue) reply) := by
  rw [searchByFieldValue, ExceptT.run_bind, Reporting.ofExcept]
  cases Filter.ofFieldValues pairs with
  | error cause => rfl
  | ok filter? =>
    cases filter? with
    | none => rfl
    | some filter =>
      change ExceptT.run (do
        let docs ← Reporting.request .searchByFieldValue (.find collection filter options)
        Reporting.nonEmpty .searchByFieldValue docs) = _
      rw [ExceptT.run_bind, Reporting.run_request, Session.call_bind]
      congr 1
      funext reply
      cases reply with
      | error cause => rfl
      | ok docs => exact Reporting.run_nonEmpty .searchByFieldValue docs

end ReportService

/-- A report asks for the inventory and, if it gets some, once more. -/
theorem ReportSide.report_reports {σ α : Type} [Entity α] (side : ReportSide α)
    (service : ReportService) (criteria : SearchCriteria) (options : CallOptions)
    (handler : Session.Handler σ) (state : σ) :
    (Reporting.observe handler (side.report service criteria options) state).Reports side service
      criteria options := by
  have hrun := side.run_report service criteria options
  rw [Observed.Reports]
  cases hcriteria : Filter.ofCriteria criteria with
  | error cause =>
    rw [hcriteria] at hrun
    exact Reporting.observe_of_done hrun handler state
  | ok filter =>
    rw [hcriteria] at hrun
    refine ⟨(handler (.find service.collections.inventory filter options) state).1, ?_⟩
    rw [Reporting.answerReply_eq_onReply, Reporting.answerReply_eq_onReply] at hrun
    rw [Reporting.observe, Reporting.run, hrun]
    cases hfound : Reporting.onReply .searchInventory (Reporting.answer Inventory .searchInventory)
        (handler (.find service.collections.inventory filter options) state).1 with
    | error cause => simp only [Session.exchanges, Session.run, hfound]
    | ok inventory =>
      simp only [Session.exchanges, Session.run, hfound]
      exact ⟨_, rfl⟩

/-- Every call makes the requests that it should and reads the replies as it should. -/
theorem ServiceCall.answered (service : ReportService) (call : ServiceCall) (options : CallOptions)
    {σ : Type} (handler : Session.Handler σ) (state : σ) :
    call.Answered service options
      (Reporting.observe handler (call.computation service options) state) := by
  cases call with
  | searchInventory criteria =>
    have hrun := service.run_searchInventory criteria options
    rw [Answered]
    cases hcriteria : Filter.ofCriteria criteria with
    | error cause =>
      rw [hcriteria] at hrun
      exact Reporting.observe_of_done hrun handler state
    | ok filter =>
      rw [hcriteria] at hrun
      have hsearch := Reporting.observe_congr hrun handler state
      exact hsearch ▸ ReportService.findEntities_asksOnce handler state ..
  | searchMetrics inventory => exact ReportService.findEntities_asksOnce handler state ..
  | searchDevices inventory => exact ReportService.findEntities_asksOnce handler state ..
  | searchByFieldValue collection pairs =>
    have hrun := ReportService.run_searchByFieldValue collection pairs options
    rw [Answered]
    cases hpairs : Filter.ofFieldValues pairs with
    | error cause =>
      rw [hpairs] at hrun
      exact Reporting.observe_of_done hrun handler state
    | ok filter? =>
      rw [hpairs] at hrun
      cases filter? with
      | none => exact Reporting.observe_of_done hrun handler state
      | some filter => exact Reporting.observe_of_call hrun handler state
  | weightDistribution => exact ReportService.weightDistribution_asksOnce handler state ..
  | insertInventory items => exact ReportService.insertEntities_inserts handler state ..
  | insertMetrics metrics => exact ReportService.insertEntities_inserts handler state ..
  | insertDevices devices => exact ReportService.insertEntities_inserts handler state ..
  | insertReports reports => exact ReportService.insertEntities_inserts handler state ..
  | metricReport criteria =>
    exact ReportSide.metric.report_reports service criteria options handler state
  | deviceReport criteria =>
    exact ReportSide.device.report_reports service criteria options handler state

namespace Observed

variable {options : CallOptions}

/-- An insertion is orderly. -/
theorem Inserts.orderly {β : Type} [Entity β] {observed : Observed (List DocumentKey)}
    {operation : Operation} {collection : String} {entities : List β}
    (h : observed.Inserts operation collection entities options) :
    observed.Orderly [(operation, collection)] true options := by
  rw [Inserts] at h
  split at h
  case isTrue => exact h.orderly fun error hresult => by cases hresult
  case isFalse => exact h.orderly (fun _ _ hresult => by cases hresult) fun _ => rfl

/-- A report is orderly. -/
theorem Reports.orderly {β : Type} [Entity β] {observed : Observed ReportResponse}
    {side : ReportSide β} {service : ReportService} {criteria : SearchCriteria}
    (h : observed.Reports side service criteria options) :
    observed.Orderly [(.searchInventory, service.collections.inventory),
      (side.operation, side.collection service.collections)] false options := by
  rw [Reports] at h
  cases hcriteria : Filter.ofCriteria criteria with
  | error cause =>
    rw [hcriteria] at h
    exact h.orderly fun error hresult => Or.inl ⟨cause, (Except.error.inj hresult).symm⟩
  | ok filter =>
    rw [hcriteria] at h
    obtain ⟨found, h⟩ := h
    cases hfound : Reporting.onReply .searchInventory
        (Reporting.answer Inventory .searchInventory) found with
    | error cause =>
      rw [hfound] at h
      obtain rfl := h
      have hfirst := (orderly_find Inventory .searchInventory service.collections.inventory filter
        options [(side.operation, side.collection service.collections)] found).map fun inventory =>
          ({ inventory } : ReportResponse)
      rw [once, hfound] at hfirst
      exact hfirst
    | ok inventory =>
      rw [hfound] at h
      obtain ⟨joined, rfl⟩ := h
      have hreply : Exchange.error? ⟨.find service.collections.inventory filter options, found⟩ =
          none := by
        cases found with
        | error cause => cases hfound
        | ok docs => rfl
      have hsecond := (orderly_find β side.operation (side.collection service.collections)
        (service.join.filter side.field (inventory.map side.keyOf)) options [] joined).map
          (side.respond inventory)
      exact hsecond.cons (List.cons_ne_nil _ _) rfl rfl hreply

end Observed

/-- Pairs none of which is usable lead to no filter. -/
theorem Filter.ofFieldValues_eq_none {pairs : List FieldValue}
    (h : ∀ pair ∈ pairs, pair.isUsable = false) : ofFieldValues pairs = .ok none := by
  have hnone : lastUsable? pairs = none := by
    rw [lastUsable?, List.findRev?_eq_find?_reverse, List.find?_eq_none]
    intro pair hmem
    have hpair := List.fst_mem_of_mem_zipIdx (List.mem_reverse.mp hmem)
    simp [h pair.1 hpair]
  rw [ofFieldValues, hnone]

namespace ServiceCall

variable {service : ReportService} {call : ServiceCall} {options : CallOptions}
  {observed : Observed call.Answer}

/-- A call that makes the requests that it should is orderly. -/
theorem Answered.orderly (h : call.Answered service options observed) :
    observed.Orderly (call.steps service) call.isInsert options := by
  cases call with
  | searchInventory criteria =>
    rw [Answered] at h
    cases hcriteria : Filter.ofCriteria criteria with
    | error cause =>
      rw [hcriteria] at h
      exact h.orderly fun error hresult => Or.inl ⟨cause, (Except.error.inj hresult).symm⟩
    | ok filter =>
      rw [hcriteria] at h
      exact h.orderly (Reporting.readsFor_answer Inventory _) nofun
  | searchMetrics inventory => exact h.orderly (Reporting.readsFor_answer Metric _) nofun
  | searchDevices inventory => exact h.orderly (Reporting.readsFor_answer Device _) nofun
  | searchByFieldValue collection pairs =>
    rw [Answered] at h
    cases hpairs : Filter.ofFieldValues pairs with
    | error cause =>
      rw [hpairs] at h
      exact h.orderly fun error hresult => Or.inl ⟨cause, (Except.error.inj hresult).symm⟩
    | ok filter? =>
      rw [hpairs] at h
      cases filter? with
      | none =>
        exact h.orderly fun error hresult =>
          Or.inr ⟨_, (Except.error.inj hresult).symm, rfl⟩
      | some filter => exact h.orderly (Reporting.readsFor_orNoResults _) nofun
  | weightDistribution => exact h.orderly (Reporting.readsFor_mapError _ _) nofun
  | insertInventory items => exact Observed.Inserts.orderly h
  | insertMetrics metrics => exact Observed.Inserts.orderly h
  | insertDevices devices => exact Observed.Inserts.orderly h
  | insertReports reports => exact Observed.Inserts.orderly h
  | metricReport criteria => exact Observed.Reports.orderly h
  | deviceReport criteria => exact Observed.Reports.orderly h

end ServiceCall

end Stockroom
