import Stockroom.Query.SearchParam

/-!
# Search criteria

Criteria hold search parameters for each category of entities, the categories in ascending order.
-/

namespace Stockroom

/-- The search parameters of each category. -/
structure SearchCriteria where
  categories : Entries (List SearchParam)
  ascending : Entries.Ascending categories

namespace SearchCriteria

/-- Criteria without categories. -/
def empty : SearchCriteria := ⟨[], List.Pairwise.nil⟩

instance : Inhabited SearchCriteria := ⟨empty⟩

/-- The criteria with the parameters of a category, in place of those that were there. -/
def insert (criteria : SearchCriteria) (category : String) (params : List SearchParam) :
    SearchCriteria :=
  ⟨criteria.categories.place category params, criteria.ascending.place category params⟩

/-- The criteria of a list of categories, a later one in place of an earlier one of its name. -/
def ofEntries (entries : Entries (List SearchParam)) : SearchCriteria :=
  entries.foldl (fun criteria (category, params) => criteria.insert category params) empty

/-- The category of inventory searches. -/
def inventoryCategory : String := "inventory"

/-- The parameters of a category, none if it is absent. -/
def category (criteria : SearchCriteria) (name : String) : List SearchParam :=
  (criteria.categories.get? name).getD []

/-- The parameters of an inventory search. -/
def inventory (criteria : SearchCriteria) : List SearchParam :=
  criteria.category inventoryCategory

@[simp] theorem category_empty (name : String) : empty.category name = [] := rfl

@[simp] theorem category_insert_self (criteria : SearchCriteria) (name : String)
    (params : List SearchParam) : (criteria.insert name params).category name = params :=
  congrArg (Option.getD · []) (Entries.get?_place_self name params criteria.categories)

theorem category_insert_of_ne (criteria : SearchCriteria) {name other : String}
    (h : other ≠ name) (params : List SearchParam) :
    (criteria.insert name params).category other = criteria.category other :=
  congrArg (Option.getD · []) (Entries.get?_place_of_ne h params criteria.categories)

/-- Reads an object of lists of parameters. -/
def decode : Json → Json.Decoded SearchCriteria
  | .object members =>
    members.foldlM (fun criteria (category, value) => do
      return criteria.insert category (← Json.decodeList SearchParam.decode value)) empty
  | other => .error (.invalidType other .map)

/-- Writes the categories in their order. -/
def toJson (criteria : SearchCriteria) : Json :=
  .object (criteria.categories.map fun (category, params) =>
    (category, .array (params.map SearchParam.toJson)))

end SearchCriteria

end Stockroom
