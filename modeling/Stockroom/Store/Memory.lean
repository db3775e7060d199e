import Stockroom.Query.Grouping
import Stockroom.Query.Matching
import Stockroom.Store.Collection
import Stockroom.Store.Keys
import Stockroom.Store.Request

/-!
# The store in memory

The store keeps a list of documents for each collection. An insertion appends a whole batch or
nothing, and nothing else changes a collection.
-/

namespace Stockroom

/-- The documents of each collection, and the number of fresh keys that stored documents have. -/
structure Memory where
  collections : Entries (List Document)
  issued : Nat
  deriving DecidableEq

namespace Memory

/-- The store without documents. -/
def empty : Memory := ⟨[], 0⟩

instance : Inhabited Memory := ⟨empty⟩

/-- The documents of a collection in the order of their insertion. -/
def documents (memory : Memory) (collection : String) : List Document :=
  (memory.collections.get? collection).getD []

/-- The number of documents of a collection. -/
def count (memory : Memory) (collection : String) : Nat :=
  (memory.documents collection).length

/-- The store with a batch appended to a collection. -/
def append (memory : Memory) (collection : String) (docs : List Document) (issued : Nat) : Memory :=
  ⟨memory.collections.put collection (memory.documents collection ++ docs), issued⟩

@[simp] theorem documents_empty (collection : String) : empty.documents collection = [] := rfl

@[simp] theorem documents_append_self (memory : Memory) (collection : String)
    (docs : List Document) (issued : Nat) :
    (memory.append collection docs issued).documents collection =
      memory.documents collection ++ docs :=
  congrArg (Option.getD · []) (Entries.get?_put_self collection _ memory.collections)

theorem documents_append_of_ne (memory : Memory) {collection other : String}
    (h : other ≠ collection) (docs : List Document) (issued : Nat) :
    (memory.append collection docs issued).documents other = memory.documents other :=
  congrArg (Option.getD · []) (Entries.get?_put_of_ne h _ memory.collections)

/-- What every operation checks before it does anything. -/
def checkCall (now : Nat) (operation collection : String) (options : CallOptions) :
    Stored Unit := do
  options.check now operation
  let _ ← Collection.validate collection

/-- The documents of a collection that satisfy a filter, in their order. -/
def find (memory : Memory) (now : Nat) (collection : String) (filter : Filter)
    (options : CallOptions) : Stored (List Document) := do
  checkCall now "find" collection options
  return (memory.documents collection).filter filter.accepts

/-- The rows of a pipeline over a collection. -/
def aggregate (memory : Memory) (now : Nat) (collection : String) (pipeline : Pipeline)
    (options : CallOptions) : Stored (List Document) := do
  checkCall now "aggregate" collection options
  return pipeline.apply (memory.documents collection)

/-- Appends a batch to a collection; the keys of its documents and the new store. -/
def insertMany (memory : Memory) (supply : KeySupply) (now : Nat) (collection : String)
    (docs : List Document) (options : CallOptions) : Stored (List DocumentKey × Memory) := do
  checkCall now "insert_many" collection options
  let (keys, docs, issued) ← Document.assignKeys supply memory.issued docs
  return (keys, memory.append collection docs issued)

/-- The store as it answers the requests of a session at one moment. -/
def handler (supply : KeySupply) (now : Nat) : Session.Handler Memory
  | .find collection filter options, memory => (memory.find now collection filter options, memory)
  | .aggregate collection pipeline options, memory =>
    (memory.aggregate now collection pipeline options, memory)
  | .insertMany collection docs options, memory =>
    match memory.insertMany supply now collection docs options with
    | .ok (keys, next) => (.ok keys, next)
    | .error e => (.error e, memory)

end Memory

end Stockroom
