import Stockroom.Json.Number

/-!
# JSON values

Objects keep the order of their members. Two notions of equality live side by side: `=` is equality
of everything that a text shows, and `Json.Same` in a module of its own is equality as JSON values.
-/

namespace Stockroom

/-- A JSON value. -/
inductive Json
  | null
  | bool (value : Bool)
  | number (value : Json.Number)
  | string (value : String)
  | array (items : List Json)
  | object (members : List (String × Json))

namespace Json

mutual

/-- Whether two values are identical, the order of members included. -/
def identical : Json → Json → Bool
  | null, null => true
  | bool a, bool b => a == b
  | number a, number b => a == b
  | string a, string b => a == b
  | array a, array b => identicalItems a b
  | object a, object b => identicalMembers a b
  | _, _ => false

/-- Whether two lists hold identical values in the same order. -/
def identicalItems : List Json → List Json → Bool
  | [], [] => true
  | a :: as, b :: bs => identical a b && identicalItems as bs
  | _, _ => false

/-- Whether two lists hold the same names with identical values in the same order. -/
def identicalMembers : List (String × Json) → List (String × Json) → Bool
  | [], [] => true
  | (k, a) :: as, (l, b) :: bs => k == l && identical a b && identicalMembers as bs
  | _, _ => false

end

mutual

theorem eq_of_identical : (a b : Json) → identical a b = true → a = b
  | null, b, h => by cases b <;> simp_all [identical]
  | bool a, b, h => by cases b <;> simp_all [identical]
  | number a, b, h => by cases b <;> simp_all [identical]
  | string a, b, h => by cases b <;> simp_all [identical]
  | array a, b, h => by
    cases b with
    | array b => rw [eq_of_identicalItems a b h]
    | _ => cases h
  | object a, b, h => by
    cases b with
    | object b => rw [eq_of_identicalMembers a b h]
    | _ => cases h

theorem eq_of_identicalItems : (a b : List Json) → identicalItems a b = true → a = b
  | [], [], _ => rfl
  | a :: as, b :: bs, h => by
    simp only [identicalItems, Bool.and_eq_true] at h
    rw [eq_of_identical a b h.1, eq_of_identicalItems as bs h.2]

theorem eq_of_identicalMembers :
    (a b : List (String × Json)) → identicalMembers a b = true → a = b
  | [], [], _ => rfl
  | (k, a) :: as, (l, b) :: bs, h => by
    simp only [identicalMembers, Bool.and_eq_true, beq_iff_eq] at h
    rw [h.1.1, eq_of_identical a b h.1.2, eq_of_identicalMembers as bs h.2]

end

mutual

theorem identical_self : (a : Json) → identical a a = true
  | null => rfl
  | bool a => by simp only [identical, BEq.rfl]
  | number a => by simp only [identical, BEq.rfl]
  | string a => by simp only [identical, BEq.rfl]
  | array a => identicalItems_self a
  | object a => identicalMembers_self a

theorem identicalItems_self : (as : List Json) → identicalItems as as = true
  | [] => rfl
  | a :: as => by
    simp only [identicalItems, identical_self a, identicalItems_self as, Bool.and_self]

theorem identicalMembers_self : (as : List (String × Json)) → identicalMembers as as = true
  | [] => rfl
  | (k, a) :: as => by
    simp only [identicalMembers, BEq.rfl, identical_self a, identicalMembers_self as,
      Bool.and_self]

end

instance : DecidableEq Json := fun a b =>
  decidable_of_iff (identical a b = true) ⟨eq_of_identical a b, fun h => h ▸ identical_self a⟩

/-- A signed word as a JSON value. -/
def ofInt64 (value : Int64) : Json :=
  number (.ofInt64 value)

/-- A double as a JSON value. What is not finite has no JSON form and becomes `null`. -/
def ofDouble (value : Double) : Json :=
  match Number.ofDouble? value with
  | some n => number n
  | none => null

/-- The double of a number, nothing for any other value. -/
def toDouble? : Json → Option Double
  | number n => some n.toDouble
  | _ => none

end Json

end Stockroom
