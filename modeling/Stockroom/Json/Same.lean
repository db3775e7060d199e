import Stockroom.Json.Basic
import Stockroom.Entries

/-!
# Equality as JSON values

As JSON values, objects are equal when they hold the same members in any order, and the two zeros
are equal; an integer and a double never are. The relation is stated through a canonical form, so
that it is an equivalence by construction.
-/

namespace Stockroom.Json

mutual

/-- The value with the members of every object in ascending order and every negative zero
positive. -/
def canonical : Json → Json
  | null => null
  | bool value => bool value
  | number value => number value.canonical
  | string value => string value
  | array items => array (canonicalItems items)
  | object members => object (canonicalMembers members)

/-- The canonical forms of the items of an array. -/
def canonicalItems : List Json → List Json
  | [] => []
  | item :: rest => item.canonical :: canonicalItems rest

/-- The canonical forms of the members of an object; of two members with one name the first
counts. -/
def canonicalMembers : List (String × Json) → List (String × Json)
  | [] => []
  | (name, value) :: rest => Entries.place name value.canonical (canonicalMembers rest)

end

/-- Equality as JSON values. -/
def Same (a b : Json) : Prop :=
  a.canonical = b.canonical

instance (a b : Json) : Decidable (Same a b) :=
  inferInstanceAs (Decidable (_ = _))

theorem Same.refl (a : Json) : Same a a := rfl

theorem Same.symm {a b : Json} (h : Same a b) : Same b a := Eq.symm h

theorem Same.trans {a b c : Json} (h : Same a b) (h' : Same b c) : Same a c := Eq.trans h h'

end Stockroom.Json
