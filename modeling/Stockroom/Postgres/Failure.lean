import Stockroom.Store.Deadline

/-!
# Failures of statements and connections

What fails on the way to the database and back has a kind and a text in the words of the database
or of the connection. The kind decides which error of the store the caller sees, and the text stands
at the end of its message.
-/

namespace Stockroom.Postgres

/-- Why a statement has no result or a connection is not made. -/
inductive SqlFailure
  /-- The database refuses. Not every refusal has a code. -/
  | database (code : Option String) (message : String)
  /-- No connection can be taken from the pool. -/
  | pool (detail : String)
  /-- A connection breaks or does not follow the protocol. -/
  | transport (detail : String)
  /-- A row does not hold a value of its type. -/
  | decoding (detail : String)
  /-- Anything else. -/
  | other (detail : String)
  deriving DecidableEq

/-- The error that the caller of an operation sees. -/
def SqlFailure.inOperation (operation : String) : SqlFailure → StoreError
  | database code message =>
    let code := code.getD ""
    .query s!"database error in {operation} ({code}): {message}"
  | pool detail => .connection s!"connection pool unavailable in {operation}: {detail}"
  | transport detail => .connection s!"connection error in {operation}: {detail}"
  | decoding detail => .serialization s!"failed to decode document in {operation}: {detail}"
  | other detail => .query s!"sqlx error in {operation}: {detail}"

end Stockroom.Postgres
