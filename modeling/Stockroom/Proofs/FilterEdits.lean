import Stockroom.Proofs.FilterDocuments

/-!
# Filters as ordered maps

A filter is built by inserting conditions, with or without asking for the one that is displaced, or
anew from an equality. Main statement: whatever is done, the filter holds for each field the last
condition inserted there, once and in the order of the first insertions, an insertion gives back
just what it displaces, and the document form has one member for each clause. As long as its doubles
are finite, a filter can be told from its document form.
-/

namespace Stockroom

/-! ### Steps in which a filter is built -/

/-- A step in which a filter is built. -/
inductive FilterEdit
  /-- Inserts a condition and asks for the one that it displaces. -/
  | exchange (field : String) (condition : Condition)
  /-- Inserts a condition. -/
  | insert (field : String) (condition : Condition)
  /-- Starts anew with one equality. -/
  | eq (field : String) (literal : Literal)

namespace FilterEdit

/-- The filter after a step. -/
def apply (filter : Filter) : FilterEdit → Filter
  | exchange field condition => (filter.exchange field condition).2
  | insert field condition => filter.insert field condition
  | eq field literal => .eq field literal

/-- The filter that is built from nothing. -/
def build (edits : List FilterEdit) : Filter :=
  edits.foldl apply .empty

/-- The log of insertions after a step. -/
def record (log : Entries Condition) : FilterEdit → Entries Condition
  | exchange field condition => log ++ [(field, condition)]
  | insert field condition => log ++ [(field, condition)]
  | eq field literal => [(field, .eq literal)]

/-- All insertions since the filter was last started anew, in their order. -/
def insertions (edits : List FilterEdit) : Entries Condition :=
  edits.foldl record []

/-- A step puts what it inserts. -/
theorem clauses_apply {filter : Filter} {log : Entries Condition}
    (h : filter.clauses = Entries.putAll [] log) (edit : FilterEdit) :
    (edit.apply filter).clauses = Entries.putAll [] (edit.record log) := by
  cases edit with
  | exchange field condition =>
    rw [record, Entries.putAll_concat, ← h]
    rfl
  | insert field condition =>
    rw [record, Entries.putAll_concat, ← h]
    rfl
  | eq field literal => rfl

/-- The clauses are the insertions, put one after the other. -/
theorem clauses_build (edits : List FilterEdit) :
    (build edits).clauses = Entries.putAll [] (insertions edits) := by
  induction edits using List.reverseRecOn with
  | nil => rfl
  | append_singleton edits edit ih =>
    rw [build, insertions, List.foldl_append, List.foldl_append]
    exact clauses_apply ih edit

/-- The fields stand in the order of their first insertions. -/
theorem names_build (edits : List FilterEdit) :
    (build edits).clauses.names = (insertions edits).names.eraseDups := by
  rw [clauses_build, Entries.names_putAll_nil]

/-- A step keeps the fields distinct. -/
theorem distinct_apply {filter : Filter} (h : filter.Distinct) (edit : FilterEdit) :
    (edit.apply filter).Distinct := by
  cases edit with
  | exchange field condition => exact h.insert field condition
  | insert field condition => exact h.insert field condition
  | eq field literal => exact Filter.distinct_empty.insert field (.eq literal)

/-- No field has two clauses. -/
theorem distinct_build (edits : List FilterEdit) : (build edits).Distinct := by
  induction edits using List.reverseRecOn with
  | nil => exact Filter.distinct_empty
  | append_singleton edits edit ih =>
    rw [build, List.foldl_append]
    exact distinct_apply ih edit

/-- The condition on a field is the last one inserted there. -/
theorem get?_build (edits : List FilterEdit) (field : String) :
    (build edits).get? field = Entries.get? field (insertions edits).reverse := by
  rw [Filter.get?, clauses_build, Entries.get?_putAll_nil]

end FilterEdit

namespace Filter

/-- What an insertion gives back and leaves: nothing is displaced and the clause stands last, or a
condition is displaced and the new one stands in its place. -/
inductive Displaces (filter : Filter) (field : String) (condition : Condition) :
    Option Condition × Filter → Prop
  | nothing (hnew : field ∉ filter.clauses.names) :
      Displaces filter field condition (none, ⟨filter.clauses ++ [(field, condition)]⟩)
  | clause (before : Entries Condition) (old : Condition) (after : Entries Condition)
      (hclauses : filter.clauses = before ++ (field, old) :: after)
      (hbefore : field ∉ before.names) (hafter : field ∉ after.names) :
      Displaces filter field condition (some old, ⟨before ++ (field, condition) :: after⟩)

/-- An insertion gives back what it displaces. -/
theorem Distinct.displaces_exchange {filter : Filter} (h : filter.Distinct) (field : String)
    (condition : Condition) :
    Displaces filter field condition (filter.exchange field condition) := by
  cases hget : filter.get? field with
  | none =>
    have hnew : field ∉ filter.clauses.names := Entries.get?_eq_none_iff.mp hget
    rw [exchange, hget, Filter.insert, Entries.put_of_not_mem hnew]
    exact .nothing hnew
  | some old =>
    obtain ⟨before, after, hclauses, hbefore⟩ := Entries.exists_split_of_get? hget
    have hafter : field ∉ Entries.names after := by
      rw [Distinct, hclauses] at h
      exact (Entries.not_mem_of_nodup_names h).2
    rw [exchange, hget, Filter.insert, hclauses, Entries.put_append_cons hbefore]
    exact .clause before old after hclauses hbefore hafter

end Filter

namespace FilterEdit

/-- Whatever is done to build a filter, it is an ordered map: it holds for each field the last
condition inserted there, once and in the order of the first insertions, and an insertion gives back
just what it displaces. Its document form has one member for each clause. As long as their doubles
are finite, filters can be told from their document forms, and also by the values in them but for
the signs of zeros, and literals are read back from theirs. -/
theorem build_ordered :
    (∀ edits : List FilterEdit,
      let filter := build edits
      filter.clauses.names.Nodup ∧
      filter.clauses.names = (insertions edits).names.eraseDups ∧
      (∀ field, filter.get? field = Entries.get? field (insertions edits).reverse) ∧
      (∀ field condition,
        Filter.Displaces filter field condition (filter.exchange field condition)) ∧
      filter.toDocument.members =
        filter.clauses.map fun clause => (clause.1, clause.2.toJson)) ∧
    (∀ edits others : List FilterEdit, (build edits).IsFinite → (build others).IsFinite →
      ((build edits).toDocument = (build others).toDocument → build edits = build others) ∧
      (List.Forall₂ (fun left right => left.1 = right.1 ∧ left.2.Same right.2)
          (build edits).toDocument.members (build others).toDocument.members →
        (build edits).canonical = (build others).canonical)) ∧
    ∀ literal : Literal, literal.IsFinite → Literal.ofJson? literal.toJson = some literal := by
  refine ⟨fun edits => ?_, fun edits others hfinite hothers => ?_, fun literal =>
    Literal.ofJson?_toJson⟩
  · have hdistinct := distinct_build edits
    exact ⟨hdistinct, names_build edits, get?_build edits, hdistinct.displaces_exchange,
      hdistinct.members_toDocument⟩
  · have hdistinct := distinct_build edits
    exact ⟨hdistinct.eq_of_toDocument_eq hfinite (distinct_build others) hothers,
      hdistinct.canonical_eq hfinite (distinct_build others) hothers⟩

/-- Starting anew drops what was there, and the later condition on a field takes the first place.
The two zeros have different document forms, and the filters with them are equal but for the
sign. -/
theorem build_ordered_zeros :
    let negativeZero : Double := .finite ⟨true, 0, Nat.dvd_zero _, Double.overflow_pos⟩
    let unbounded : Condition := .range ⟨none, none⟩
    let edits : List FilterEdit := [.insert "x" (.eq (.text "gone")), .eq "a" (.int 1),
      .insert "b" unbounded, .exchange "a" (.eq (.float negativeZero))]
    let direct : List FilterEdit := [.exchange "a" (.eq (.float negativeZero)),
      .insert "b" unbounded]
    let positive : List FilterEdit := [.eq "a" (.float .zero), .insert "b" unbounded]
    ((build edits).IsFinite ∧ (build direct).IsFinite ∧ (build positive).IsFinite) ∧
      (build edits).toDocument = (build direct).toDocument ∧ build edits = build direct ∧
      (build edits).toDocument ≠ (build positive).toDocument ∧
      (build edits).canonical = (build positive).canonical := by
  intro negativeZero unbounded edits direct positive
  have hedits : (build edits).IsFinite := List.forall_mem_singleton.mpr rfl
  have hdirect : (build direct).IsFinite := List.forall_mem_singleton.mpr rfl
  have hpositive : (build positive).IsFinite := List.forall_mem_singleton.mpr rfl
  have hdocument : (build edits).toDocument = (build direct).toDocument := by decide
  obtain ⟨-, htold, -⟩ := build_ordered
  have hequal := (htold edits direct hedits hdirect).1 hdocument
  have hzeros := (htold edits positive hedits hpositive).2
    (.cons ⟨rfl, rfl⟩ (.cons ⟨rfl, rfl⟩ .nil))
  exact ⟨⟨hedits, hdirect, hpositive⟩, hdocument, hequal, by decide, hzeros⟩

end FilterEdit

end Stockroom
