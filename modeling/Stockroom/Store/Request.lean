import Stockroom.Query.Filter
import Stockroom.Query.Pipeline
import Stockroom.Store.Deadline

/-!
# Sessions with a store

A computation that uses a store is a tree of requests: it ends with a value, or it makes a request
and goes on with the reply. What a session does is thus settled without any store, and a store is
whatever answers requests.
-/

namespace Stockroom

/-- A request to a store. -/
inductive Request
  | find (collection : String) (filter : Filter) (options : CallOptions)
  | aggregate (collection : String) (pipeline : Pipeline) (options : CallOptions)
  | insertMany (collection : String) (documents : List Document) (options : CallOptions)
  deriving DecidableEq

namespace Request

/-- What a store replies if it does not fail. -/
abbrev Reply : Request → Type
  | find .. => List Document
  | aggregate .. => List Document
  | insertMany .. => List DocumentKey

/-- The collection that the request is about. -/
def collection : Request → String
  | find collection _ _ => collection
  | aggregate collection _ _ => collection
  | insertMany collection _ _ => collection

/-- What the caller asks of the call. -/
def options : Request → CallOptions
  | find _ _ options => options
  | aggregate _ _ options => options
  | insertMany _ _ options => options

end Request

/-- A computation that makes requests to a store. -/
inductive Session (α : Type) : Type
  | done (value : α)
  | call (request : Request) (next : Stored request.Reply → Session α)

namespace Session

/-- The session that goes on with the value of another one. -/
def bind {α β : Type} : Session α → (α → Session β) → Session β
  | done value, f => f value
  | call request next, f => call request fun reply => bind (next reply) f

instance : Monad Session where
  pure := done
  bind := bind

/-- Makes one request. -/
def request (request : Request) : Session (Stored request.Reply) :=
  call request done

/-- A store as a function of its state: it answers a request and goes on in a new state. -/
abbrev Handler (σ : Type) := (request : Request) → σ → Stored request.Reply × σ

/-- The value of a session with a store, and the state in which it leaves the store. -/
def run {σ α : Type} (handler : Handler σ) : Session α → σ → α × σ
  | done value, state => (value, state)
  | call request next, state =>
    let (reply, state) := handler request state
    run handler (next reply) state

@[simp] theorem run_pure {σ α : Type} (handler : Handler σ) (value : α) (state : σ) :
    (pure value : Session α).run handler state = (value, state) := rfl

end Session

end Stockroom
