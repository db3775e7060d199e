import Mathlib.Data.List.Forall2
import Mathlib.Data.List.Nodup
import Stockroom.Json.Same
import Stockroom.Proofs.Clauses
import Stockroom.Proofs.Rounding

/-!
# What equality as JSON values is

Equality as JSON values is defined through a canonical form. This file says what it comes to for
each kind of value: numbers have to be of one kind and of one exact value, arrays have to agree item
by item, and objects name by name, in whatever order their members stand.
-/

namespace Stockroom

namespace Entries

variable {α : Type} {entries others : Entries α}

/-- Strictly ascending names are distinct. -/
theorem Ascending.nodup_names (h : Ascending entries) : entries.names.Nodup := by
  refine List.pairwise_map.mpr (h.imp ?_)
  intro left right hlt heq
  rw [heq] at hlt
  exact Std.lt_irrefl hlt

/-- Among distinct names the entries are what is found. -/
theorem mem_iff_get?_eq_some (h : entries.names.Nodup) {name : String} {value : α} :
    (name, value) ∈ entries ↔ entries.get? name = some value :=
  ⟨get?_eq_some_of_mem h, mem_of_get?_eq_some⟩

/-- Entries in ascending order are settled by what is found in them. -/
theorem Ascending.ext (h : Ascending entries) (hothers : Ascending others)
    (hget : ∀ name, entries.get? name = others.get? name) : entries = others := by
  have hmem (entry : String × α) : entry ∈ entries ↔ entry ∈ others := by
    obtain ⟨name, value⟩ := entry
    rw [mem_iff_get?_eq_some h.nodup_names, mem_iff_get?_eq_some hothers.nodup_names, hget]
  have hnodup : entries.Nodup := List.Nodup.of_map Prod.fst h.nodup_names
  have hnodup' : others.Nodup := List.Nodup.of_map Prod.fst hothers.nodup_names
  have hperm : entries.Perm others := (List.perm_ext_iff_of_nodup hnodup hnodup').mpr hmem
  refine hperm.eq_of_pairwise (fun left right _ _ hlt hgt => ?_) h hothers
  exact absurd (Std.lt_trans hlt hgt) Std.lt_irrefl

end Entries

namespace Double.Finite

/-- Values of one sign and one magnitude are equal. -/
theorem eq_of_units_eq {x y : Finite} (hnegative : x.negative = y.negative)
    (hunits : x.units = y.units) : x = y := by
  obtain ⟨negative, units, _⟩ := x
  obtain rfl : negative = y.negative := hnegative
  obtain rfl : units = y.units := hunits
  rfl

/-- Values with one number of units are equal, but for the sign of a zero. -/
theorem withoutNegativeZero_eq_iff {x y : Finite} :
    x.withoutNegativeZero = y.withoutNegativeZero ↔ x.signedUnits = y.signedUnits := by
  have hsigned (z : Finite) : z.withoutNegativeZero.signedUnits = z.signedUnits := by
    have habs := z.natAbs_signedUnits
    unfold withoutNegativeZero isZero
    split_ifs with hzero
    · rw [beq_iff_eq] at hzero
      have hnone : zero.signedUnits = 0 := rfl
      omega
    · rfl
  have hnegative (z : Finite) : z.withoutNegativeZero.negative = decide (z.signedUnits < 0) := by
    unfold withoutNegativeZero isZero signedUnits
    cases hsign : z.negative <;> by_cases hzero : z.units = 0 <;> simp [hsign, hzero, zero]
    omega
  constructor
  · intro h
    rw [← hsigned x, h, hsigned]
  · intro h
    apply eq_of_units_eq
    · rw [hnegative, hnegative, h]
    · rw [← natAbs_signedUnits, ← natAbs_signedUnits, hsigned, hsigned, h]

end Double.Finite

namespace Json

namespace Number

/-- Whether a number is written as an integer. -/
def isInteger : Number → Bool
  | integer .. => true
  | float _ => false

/-- Numbers are equal as JSON values if they are of one kind and have one exact value. -/
theorem canonical_eq_iff {m n : Number} :
    m.canonical = n.canonical ↔ m.isInteger = n.isInteger ∧ m.units = n.units := by
  have hone : Double.one ≠ 0 := Nat.ne_of_gt Double.one_pos
  cases m with
  | integer v isWord =>
    cases n with
    | integer w isWord' =>
      simp only [canonical, isInteger, units, integer.injEq, true_and]
      generalize Double.one = one at hone
      simp [hone]
    | float y => simp [canonical, isInteger]
  | float x =>
    cases n with
    | integer w isWord' => simp [canonical, isInteger]
    | float y => simp [canonical, isInteger, units, Double.Finite.withoutNegativeZero_eq_iff]

end Number

/-- The members of a canonical object ascend. -/
theorem ascending_canonicalMembers (members : List (String × Json)) :
    Entries.Ascending (canonicalMembers members) := by
  induction members with
  | nil => exact List.Pairwise.nil
  | cons member rest ih =>
    obtain ⟨name, value⟩ := member
    rw [canonicalMembers]
    exact ih.place name value.canonical

/-- A canonical object holds under each name the canonical form of what was there. -/
theorem get?_canonicalMembers (name : String) (members : List (String × Json)) :
    Entries.get? name (canonicalMembers members) =
      (Entries.get? name members).map canonical := by
  induction members with
  | nil => rfl
  | cons member rest ih =>
    obtain ⟨first, value⟩ := member
    rw [canonicalMembers, Entries.get?]
    by_cases h : first = name
    · subst h
      rw [if_pos rfl, Entries.get?_place_self, Option.map_some]
    · rw [if_neg h, Entries.get?_place_of_ne (Ne.symm h), ih]

/-- The canonical form of an array is that of its items. -/
theorem canonicalItems_eq_map (items : List Json) : canonicalItems items = items.map canonical := by
  induction items with
  | nil => rfl
  | cons item rest ih => rw [canonicalItems, ih, List.map_cons]

/-- Objects are the same if they agree under each name. -/
theorem canonicalMembers_eq_iff {members others : List (String × Json)} :
    canonicalMembers members = canonicalMembers others ↔ ∀ name,
      Option.Rel Same (Entries.get? name members) (Entries.get? name others) := by
  have hrel (a b : Option Json) : a.map canonical = b.map canonical ↔ Option.Rel Same a b := by
    cases a <;> cases b <;> simp [Same]
  constructor
  · intro h name
    rw [← hrel, ← get?_canonicalMembers, ← get?_canonicalMembers, h]
  · intro h
    refine (ascending_canonicalMembers members).ext (ascending_canonicalMembers others) ?_
    intro name
    rw [get?_canonicalMembers, get?_canonicalMembers, hrel]
    exact h name

/-- Arrays are the same if they agree item by item. -/
theorem canonicalItems_eq_iff {items others : List Json} :
    canonicalItems items = canonicalItems others ↔ List.Forall₂ Same items others := by
  rw [canonicalItems_eq_map, canonicalItems_eq_map, ← List.forall₂_eq_eq_eq,
    List.forall₂_map_left_iff, List.forall₂_map_right_iff]
  rfl

/-- Whether two values are of one kind and agree in what they consist of. -/
def Agree : Json → Json → Prop
  | null, null => True
  | bool a, bool b => a = b
  | number m, number n => m.isInteger = n.isInteger ∧ m.units = n.units
  | string s, string t => s = t
  | array items, array others => List.Forall₂ Same items others
  | object members, object others => ∀ name,
      Option.Rel Same (Entries.get? name members) (Entries.get? name others)
  | _, _ => False

/-- Values are the same if they are of one kind and agree in what they consist of. -/
theorem same_iff_agree {a b : Json} : a.Same b ↔ a.Agree b := by
  cases a <;> cases b <;>
    simp [Same, canonical, Agree, Number.canonical_eq_iff, canonicalItems_eq_iff,
      canonicalMembers_eq_iff]

end Json

end Stockroom
