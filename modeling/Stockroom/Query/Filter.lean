import Stockroom.Document.Basic
import Stockroom.Json.Printer
import Stockroom.Query.Condition

/-!
# Filters

A filter is a conjunction of clauses in the order in which their fields were first named. A later
condition on a field takes the place of the earlier one.
-/

namespace Stockroom

/-- Conditions on fields, all of which have to hold. -/
structure Filter where
  clauses : Entries Condition
  deriving DecidableEq

namespace Filter

/-- The filter that every document satisfies. -/
def empty : Filter := ⟨[]⟩

instance : Inhabited Filter := ⟨empty⟩

/-- The condition on a field. -/
def get? (filter : Filter) (field : String) : Option Condition :=
  filter.clauses.get? field

/-- The filter with a condition on a field, in place of the one that was there. -/
def insert (filter : Filter) (field : String) (condition : Condition) : Filter :=
  ⟨filter.clauses.put field condition⟩

/-- Inserts a condition and gives back the one that it displaces. -/
def exchange (filter : Filter) (field : String) (condition : Condition) :
    Option Condition × Filter :=
  (filter.get? field, filter.insert field condition)

/-- The filter with one equality. -/
def eq (field : String) (literal : Literal) : Filter :=
  empty.insert field (.eq literal)

@[simp] theorem get?_empty (field : String) : empty.get? field = none := rfl

@[simp] theorem get?_insert_self (filter : Filter) (field : String) (condition : Condition) :
    (filter.insert field condition).get? field = some condition :=
  Entries.get?_put_self field condition filter.clauses

theorem get?_insert_of_ne (filter : Filter) {field other : String} (h : other ≠ field)
    (condition : Condition) : (filter.insert field condition).get? other = filter.get? other :=
  Entries.get?_put_of_ne h condition filter.clauses

/-- The document form: one member for each clause. -/
def toDocument (filter : Filter) : Document :=
  .ofEntries (filter.clauses.map fun (field, condition) => (field, condition.toJson))

/-- The text of the document form. -/
def text (filter : Filter) : String :=
  filter.toDocument.toJson.text

end Filter

end Stockroom
