import Stockroom.Proofs.SentStatements

/-!
# Calls behind their deadlines

The store in memory looks at the deadline of a call first and refuses every late call. A store on a
server looks at it last, when there is a statement to send. A late call is refused there too, unless
it is settled before: by the name of its collection, by a pipeline without a statement, or by a batch
that is empty or has a refused key. In neither store does a late call have an effect.
-/

namespace Stockroom

namespace Request

/-- The name under which a store runs the operation. -/
def operation : Request → String
  | find .. => "find"
  | aggregate .. => "aggregate"
  | insertMany .. => "insert_many"

/-- The answer to a request about a table that there is nothing to ask a server for. -/
def idle? : (request : Request) → Option (Stored request.Reply)
  | find .. => none
  | aggregate _ pipeline _ =>
    if pipeline.stages.length ≤ 1 then none
    else some (.error (.query ("aggregate: unsupported pipeline " ++ pipeline.text)))
  | insertMany _ docs _ =>
    if docs = [] then some (.ok [])
    else (docs.findSome? Document.refusedKey?).map fun found =>
      .error (Document.unsupportedKey found)

/-- The answer to a request that is settled without a server, whatever its deadline. -/
def settled? (request : Request) : Option (Stored request.Reply) :=
  if Collection.Proper request.collection then request.idle?
  else some (.error (.invalidCollection request.collection))

/-- A request that is not settled is about a table, and there is something to ask. -/
theorem settled?_eq_none_iff {request : Request} :
    request.settled? = none ↔ Collection.Proper request.collection ∧ request.idle? = none := by
  rw [settled?]
  split
  case isTrue hname => exact (and_iff_right hname).symm
  case isFalse hname => exact iff_of_false nofun fun h => hname h.1

end Request

/-- In memory a late call is refused, whatever it is about, and the store stays as it is. -/
theorem Memory.handler_late (supply : KeySupply) (memory : Memory) {request : Request} {now : Nat}
    (hlate : request.options.isExpired now = true) :
    Memory.handler supply now request memory =
      (.error (.deadlineExceeded request.operation), memory) := by
  cases request with
  | find collection filter options =>
    have hexpired : options.isExpired now = true := hlate
    rw [handler, find_eq_error memory hexpired]
    rfl
  | aggregate collection pipeline options =>
    have hexpired : options.isExpired now = true := hlate
    rw [handler, aggregate, checkCall_eq_error hexpired]
    rfl
  | insertMany collection docs options =>
    have hexpired : options.isExpired now = true := hlate
    rw [handler, insertMany, checkCall_eq_error hexpired]
    rfl

namespace Postgres

section

variable (server : Server) (supply : KeySupply) (issued now : Nat)

/-- The exchange with a server that a request leads to, and the number of fresh keys that documents
have. -/
def respond : (request : Request) → Exchange request.Reply × Nat
  | .find collection filter options => (find server now collection filter options, issued)
  | .aggregate collection pipeline options =>
    (aggregate server now collection pipeline options, issued)
  | .insertMany collection docs options =>
    insertMany server supply issued now collection docs options

/-- A request about what is no table is refused. -/
theorem respond_of_not_proper {request : Request} (hname : ¬ Collection.Proper request.collection) :
    respond server supply issued now request =
      (.unsent (.error (.invalidCollection request.collection)), issued) := by
  cases request with
  | find collection filter options =>
    rw [respond, (guarded_find server now collection options filter).improper hname]
    rfl
  | aggregate collection pipeline options =>
    rw [respond, (guarded_aggregate server now collection options pipeline).improper hname]
    rfl
  | insertMany collection docs options =>
    have himproper : ¬ Collection.Proper collection := hname
    rw [respond, insertMany, Collection.validate_of_not_proper himproper]
    rfl

/-- A pipeline of at most one stage has a statement, and any other one is refused. -/
theorem pipelineStatement_cases (table : String) (pipeline : Pipeline) :
    (pipeline.stages.length ≤ 1 ∧ ∃ statement, pipelineStatement table pipeline = .ok statement) ∨
      (¬ pipeline.stages.length ≤ 1 ∧ pipelineStatement table pipeline =
        .error (.query ("aggregate: unsupported pipeline " ++ pipeline.text))) := by
  obtain ⟨stages⟩ := pipeline
  match stages with
  | [] => exact .inl ⟨Nat.zero_le 1, _, rfl⟩
  | [stage] => exact .inl ⟨Nat.le_refl 1, _, rfl⟩
  | first :: second :: rest => exact .inr ⟨by simp, rfl⟩

/-- A request with nothing to ask is answered without a statement. -/
theorem respond_of_idle {request : Request} (hname : Collection.Proper request.collection)
    {result : Stored request.Reply} (h : request.idle? = some result) :
    respond server supply issued now request = (.unsent result, issued) := by
  have haccepted := Collection.validate_of_proper hname
  cases request with
  | find collection filter options => cases h
  | aggregate collection pipeline options =>
    simp only [Request.collection] at haccepted
    simp only [Request.idle?] at h
    simp only [respond, aggregate, haccepted, Except.bind]
    obtain ⟨hshort, -⟩ | ⟨hlong, hrefused⟩ := pipelineStatement_cases collection pipeline
    · rw [if_pos hshort] at h
      cases h
    · rw [if_neg hlong] at h
      rw [hrefused, ← Option.some.inj h]
  | insertMany collection docs options =>
    simp only [Request.idle?] at h
    have haccepts := (Collection.isName_iff collection).mpr hname
    split at h
    case isTrue hempty =>
      subst hempty
      rw [respond, insertMany_nil supply server issued haccepts, ← Option.some.inj h]
    case isFalse hne =>
      obtain ⟨found, hfound, rfl⟩ := Option.map_eq_some_iff.mp h
      exact insertMany_of_error supply server issued haccepts hne
        (Document.assignKeys_eq_error supply hfound issued)

/-- A request that is settled is answered without a statement. -/
theorem respond_of_settled {request : Request} {result : Stored request.Reply}
    (h : request.settled? = some result) :
    respond server supply issued now request = (.unsent result, issued) := by
  rw [Request.settled?] at h
  split at h
  case isTrue hname => exact respond_of_idle server supply issued now hname h
  case isFalse hname =>
    rw [respond_of_not_proper server supply issued now hname, ← Option.some.inj h]

/-- Any other request has a statement, which is sent in time. No further document has a fresh key
unless it is. -/
theorem exists_send {request : Request} (h : request.settled? = none) :
    ∃ (statement : Statement) (read : ServerReply → Pending request.Reply) (used : Nat),
      let exchange := send server now request.operation request.options statement read
      respond server supply issued now request =
        (exchange, if exchange.statements.isEmpty then issued else used) := by
  obtain ⟨hname, hidle⟩ := Request.settled?_eq_none_iff.mp h
  have haccepted := Collection.validate_of_proper hname
  cases request with
  | find collection filter options =>
    simp only [Request.collection] at haccepted
    refine ⟨selectStatement collection filter, (·.documents "find"), issued, ?_⟩
    simp only [respond, find, haccepted, ite_self]
    rfl
  | aggregate collection pipeline options =>
    simp only [Request.collection] at haccepted
    simp only [Request.idle?] at hidle
    obtain ⟨-, statement, hstatement⟩ | ⟨hlong, -⟩ := pipelineStatement_cases collection pipeline
    · refine ⟨statement, (·.documents "aggregate"), issued, ?_⟩
      simp only [respond, aggregate, haccepted, hstatement, Except.bind, ite_self]
      rfl
    · rw [if_neg hlong] at hidle
      cases hidle
  | insertMany collection docs options =>
    simp only [Request.collection] at haccepted
    simp only [Request.idle?] at hidle
    split at hidle
    case isTrue => cases hidle
    case isFalse hne =>
      obtain ⟨keys, stored, -, hassign⟩ :=
        Document.exists_batchKeyed supply (Option.map_eq_none_iff.mp hidle) issued
      refine ⟨insertStatement collection stored,
        fun reply => (reply.rows? "insert_many").map fun _ => keys,
        issued + docs.countP Document.lacksKey, ?_⟩
      simp only [respond, insertMany, haccepted, hassign, List.isEmpty_eq_false_iff.mpr hne]
      rfl

/-- How a store on a server deals with the deadline of a request, over all moments at which the
request may come. -/
structure Timed (request : Request) (issued : Nat)
    (answer : Nat → Exchange request.Reply × Nat) : Prop where
  /-- A settled request is answered early and late alike. -/
  settled : ∀ result, request.settled? = some result →
    ∀ now, answer now = (.unsent result, issued)
  /-- Any other late request is refused. -/
  late : request.settled? = none → ∀ now, request.options.isExpired now = true →
    answer now = (.unsent (.error (.deadlineExceeded request.operation)), issued)
  /-- Any other request in time leads to a statement. -/
  prompt : request.settled? = none → ∀ now, request.options.isExpired now = false →
    ∃ statement, (answer now).1.statements = [statement]

/-- A store on a server deals so with every request. -/
theorem timed_respond (request : Request) :
    Timed request issued fun now => respond server supply issued now request where
  settled := fun result h now => respond_of_settled server supply issued now h
  late := by
    intro h now hlate
    obtain ⟨statement, read, used, heq⟩ := exists_send server supply issued now h
    rw [heq, send, if_pos hlate]
    rfl
  prompt := by
    intro h now hprompt
    obtain ⟨statement, read, used, heq⟩ := exists_send server supply issued now h
    refine ⟨statement, ?_⟩
    rw [heq, send, if_neg (Bool.eq_false_iff.mp hprompt)]

end

end Postgres

/-- A late call has no effect: in memory nothing is stored, and to a server nothing is sent. In
memory it is refused for the deadline whatever it is about. With a server it is refused for the
deadline unless it is settled by itself, and then its answer does not depend on the deadline. -/
theorem lateCalls_refused_or_settled (request : Request) (supply : KeySupply) (now : Nat)
    (hlate : request.options.isExpired now = true) (memory : Memory) (server : Postgres.Server)
    (issued : Nat) :
    Memory.handler supply now request memory =
        (.error (.deadlineExceeded request.operation), memory) ∧
      Postgres.respond server supply issued now request =
        (.unsent (request.settled?.getD (.error (.deadlineExceeded request.operation))), issued) ∧
      Postgres.Timed request issued fun moment =>
        Postgres.respond server supply issued moment request := by
  have htimed := Postgres.timed_respond server supply issued request
  refine ⟨Memory.handler_late supply memory hlate, ?_, htimed⟩
  cases hsettled : request.settled? with
  | none => exact htimed.late hsettled now hlate
  | some result => exact htimed.settled result hsettled now

/-- At its deadline a batch is refused for it in memory and with a server. With a document whose key
is refused, the batch is refused for that key before the server is asked. -/
theorem lateCalls_refused_or_settled_batches :
    let supply : KeySupply := fun _ => ⟨"k"⟩
    let server : Postgres.Server := fun _ => .rows [] ""
    let options : CallOptions := ⟨some 5⟩
    let kiwi : Document := ⟨[("name", .string "Kiwi")]⟩
    let numbered : Document := ⟨[("_id", .number (.ofInt64 5))]⟩
    let batch (docs : List Document) : Request := .insertMany "inventory" docs options
    options.isExpired 5 = true ∧
      Memory.handler supply 5 (batch [kiwi]) .empty =
        (.error (.deadlineExceeded "insert_many"), .empty) ∧
      Postgres.respond server supply 0 5 (batch [kiwi]) =
        (.unsent (.error (.deadlineExceeded "insert_many")), 0) ∧
      Postgres.respond server supply 0 5 (batch [kiwi, numbered]) =
        (.unsent (.error (.serialization "insert_many: unsupported _id value 5")), 0) := by
  intro supply server options kiwi numbered batch
  have hlate : options.isExpired 5 = true := rfl
  have hopen : (batch [kiwi]).settled? = none := by decide
  have hsettled : (batch [kiwi, numbered]).settled? =
      some (.error (.serialization "insert_many: unsupported _id value 5")) := by decide
  obtain ⟨hmemory, hserver, -⟩ :=
    lateCalls_refused_or_settled (batch [kiwi]) supply 5 hlate .empty server 0
  obtain ⟨-, hnumbered, -⟩ :=
    lateCalls_refused_or_settled (batch [kiwi, numbered]) supply 5 hlate .empty server 0
  rw [hopen] at hserver
  rw [hsettled] at hnumbered
  exact ⟨hlate, hmemory, hserver, hnumbered⟩

/-- Behind its deadline an empty batch is refused in memory, and with a server it succeeds. -/
theorem lateCalls_succeed_empty :
    let supply : KeySupply := fun _ => ⟨"k"⟩
    let options : CallOptions := ⟨some 0⟩
    options.isExpired 0 = true ∧
      Memory.handler supply 0 (.insertMany "inventory" [] options) .empty =
        (.error (.deadlineExceeded "insert_many"), .empty) ∧
      Postgres.insertMany (fun _ => .rows [] "") supply 0 0 "inventory" [] options =
        (.unsent (.ok []), 0) := by
  exact ⟨rfl, rfl, rfl⟩

end Stockroom
