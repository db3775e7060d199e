import Stockroom.Postgres.Failure
import Stockroom.Postgres.Queries
import Stockroom.Store.Keys

/-!
# The store on a Postgres server

An operation turns a request into a statement, sends it to a server and reads the reply. The server
is an argument: a function from statements to replies. The statements that were sent stand beside
the result.
-/

namespace Stockroom.Postgres

/-- What a server makes of a statement. -/
inductive ServerReply
  /-- The statement was executed and returned one JSON value for each row. The complaint is what is
  said of the first row that is no object, if there is one. -/
  | rows (values : List Json) (complaint : String)
  /-- The statement failed. -/
  | failed (failure : SqlFailure)
  /-- There is no reply. -/
  | silent
  deriving DecidableEq

/-- A server as the function from statements to replies. -/
abbrev Server := Statement → ServerReply

/-- The outcome of an operation and the statements that it sent. -/
structure Exchange (α : Type) where
  statements : List Statement
  outcome : Pending α

namespace Exchange

/-- An operation that ends without a statement. -/
def unsent {α : Type} (result : Stored α) : Exchange α :=
  ⟨[], .now result⟩

end Exchange

/-- The rows of a reply and the complaint about them. -/
def ServerReply.rows? (operation : String) : ServerReply → Pending (List Json × String)
  | rows values complaint => .now (.ok (values, complaint))
  | failed failure => .now (.error (failure.inOperation operation))
  | silent => .never

/-- The document of a row. -/
def documentOfRow (operation complaint : String) (row : Json) : Stored Document :=
  match Document.ofJson? row with
  | some doc => .ok doc
  | none => .error ((SqlFailure.decoding complaint).inOperation operation)

/-- The documents of a reply; the first row that is no object is the error. -/
def ServerReply.documents (operation : String) (reply : ServerReply) : Pending (List Document) :=
  match reply.rows? operation with
  | .answered delay result => .answered delay (result.bind fun (values, complaint) =>
      values.mapM (documentOfRow operation complaint))
  | .never => .never

/-- Sends a statement under the deadline of the caller, unless it has been reached. -/
def send {α : Type} (server : Server) (now : Nat) (operation : String) (options : CallOptions)
    (statement : Statement) (read : ServerReply → Pending α) : Exchange α :=
  if options.isExpired now then .unsent (.error (.deadlineExceeded operation))
  else ⟨[statement], options.run now operation (read (server statement))⟩

/-- The documents of a collection that satisfy a filter. -/
def find (server : Server) (now : Nat) (collection : String) (filter : Filter)
    (options : CallOptions) : Exchange (List Document) :=
  match Collection.validate collection with
  | .error e => .unsent (.error e)
  | .ok table =>
    send server now "find" options (selectStatement table filter) (·.documents "find")

/-- The rows of a pipeline over a collection. -/
def aggregate (server : Server) (now : Nat) (collection : String) (pipeline : Pipeline)
    (options : CallOptions) : Exchange (List Document) :=
  match (Collection.validate collection).bind (pipelineStatement · pipeline) with
  | .error e => .unsent (.error e)
  | .ok statement => send server now "aggregate" options statement (·.documents "aggregate")

/-- Appends a batch to a collection in one statement; an empty batch needs none. Beside the exchange
stands the number of fresh keys that documents sent so far have. Keys that were made for a batch
that was not sent are seen by nobody and do not count. -/
def insertMany (server : Server) (supply : KeySupply) (issued now : Nat) (collection : String)
    (docs : List Document) (options : CallOptions) : Exchange (List DocumentKey) × Nat :=
  match Collection.validate collection with
  | .error e => (.unsent (.error e), issued)
  | .ok table =>
    if docs.isEmpty then (.unsent (.ok []), issued)
    else
      match Document.assignKeys supply issued docs with
      | .error e => (.unsent (.error e), issued)
      | .ok (keys, docs, used) =>
        let exchange := send server now "insert_many" options (insertStatement table docs)
          fun reply => (reply.rows? "insert_many").map fun _ => keys
        (exchange, if exchange.statements.isEmpty then issued else used)

/-- Creates the tables of collections one after the other, up to the first failure. -/
def ensureCollections (server : Server) : List String → Exchange Unit
  | [] => .unsent (.ok ())
  | collection :: rest =>
    match Collection.validate collection with
    | .error e => .unsent (.error e)
    | .ok table =>
      let statement := createStatement table
      match (server statement).rows? "ensure_collections" with
      | .answered _ (.ok _) =>
        let later := ensureCollections server rest
        ⟨statement :: later.statements, later.outcome⟩
      | .answered delay (.error e) => ⟨[statement], .answered delay (.error e)⟩
      | .never => ⟨[statement], .never⟩

end Stockroom.Postgres
