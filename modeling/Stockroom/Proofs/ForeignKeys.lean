import Mathlib.Data.List.Basic
import Stockroom.Proofs.IdentifierText
import Stockroom.Proofs.Parameters
import Stockroom.Reporting.Join

/-!
# Foreign-key joins are exact

A join turns the keys of inventory records into a filter. This file says which documents are joined
to given keys and proves that the filter accepts just those. A list without keys selects nothing
when every record counts, and everything when only the last record does.
-/

namespace Stockroom

namespace ForeignKeyJoin

/-- Whether a document is joined to records with the given keys: its field holds the text of one of
the keys that are not nil, or that of the last key if there is a last one. -/
def Selects (join : ForeignKeyJoin) (field : String) (keys : List EntityId) (doc : Document) :
    Prop :=
  match join with
  | allRecords => ∃ key ∈ keys, key ≠ .nil ∧ doc.get? field = some (.string key.text)
  | lastRecord => ∀ key ∈ keys.getLast?, doc.get? field = some (.string key.text)

instance (field : String) (keys : List EntityId) (doc : Document) :
    (join : ForeignKeyJoin) → Decidable (join.Selects field keys doc)
  | allRecords => inferInstanceAs (Decidable (∃ _ ∈ _, _ ∧ _))
  | lastRecord => inferInstanceAs (Decidable (∀ _ ∈ _, _))

/-- Whether `distinct` lists the identifiers among `keys` that are not nil, each once and in the
order in which they first occur. -/
structure FirstOccurrences (keys distinct : List EntityId) : Prop where
  mem_iff : ∀ key, key ∈ distinct ↔ key ∈ keys ∧ key ≠ .nil
  nodup : distinct.Nodup
  ordered : distinct.Pairwise fun a b => keys.idxOf a < keys.idxOf b

/-- The distinct keys are the keys that are not nil. -/
theorem mem_distinctKeys {keys : List EntityId} {key : EntityId} :
    key ∈ distinctKeys keys ↔ key ∈ keys ∧ key ≠ .nil := by
  induction keys with
  | nil => simp [distinctKeys]
  | cons first rest ih =>
    rw [distinctKeys]
    by_cases hnil : first = .nil
    · rw [if_pos (EntityId.isNil_iff.mpr hnil), ih, List.mem_cons]
      constructor
      · exact fun ⟨hmem, hne⟩ => ⟨Or.inr hmem, hne⟩
      · rintro ⟨rfl | hmem, hne⟩
        · exact absurd hnil hne
        · exact ⟨hmem, hne⟩
    · rw [if_neg (mt EntityId.isNil_iff.mp hnil), List.mem_cons, List.mem_cons, List.mem_filter, ih]
      by_cases heq : key = first
      · simp [heq, hnil]
      · simp [heq]

/-- Distinct keys stand in the order in which they first occur. -/
theorem distinctKeys_ordered (keys : List EntityId) :
    (distinctKeys keys).Pairwise fun a b => keys.idxOf a < keys.idxOf b := by
  induction keys with
  | nil => exact List.Pairwise.nil
  | cons first rest ih =>
    -- Behind a first key that they do not equal, keys keep their order.
    have hshift {kept : List EntityId} (hsub : kept.Sublist (distinctKeys rest))
        (hne : ∀ key ∈ kept, key ≠ first) :
        kept.Pairwise fun a b => (first :: rest).idxOf a < (first :: rest).idxOf b := by
      refine (ih.sublist hsub).imp_of_mem ?_
      intro a b ha hb hlt
      rw [List.idxOf_cons_ne _ (hne a ha).symm, List.idxOf_cons_ne _ (hne b hb).symm]
      omega
    rw [distinctKeys]
    by_cases hnil : first = .nil
    · rw [if_pos (EntityId.isNil_iff.mpr hnil)]
      refine hshift (List.Sublist.refl _) fun key hkey => ?_
      rw [hnil]
      exact (mem_distinctKeys.mp hkey).2
    · rw [if_neg (mt EntityId.isNil_iff.mp hnil), List.pairwise_cons]
      constructor
      · intro key hkey
        have hne : key ≠ first := of_decide_eq_true (List.mem_filter.mp hkey).2
        rw [List.idxOf_cons_self, List.idxOf_cons_ne _ hne.symm]
        omega
      · exact hshift List.filter_sublist fun key hkey =>
          of_decide_eq_true (List.mem_filter.mp hkey).2

/-- The distinct keys list the first occurrences. -/
theorem firstOccurrences_distinctKeys (keys : List EntityId) :
    FirstOccurrences keys (distinctKeys keys) where
  mem_iff _ := mem_distinctKeys
  nodup := (distinctKeys_ordered keys).imp fun hlt heq => by
    rw [heq] at hlt
    exact Nat.lt_irrefl _ hlt
  ordered := distinctKeys_ordered keys

/-- The filter of a join accepts exactly the documents that are joined. -/
theorem accepts_filter (join : ForeignKeyJoin) (field : String) (keys : List EntityId)
    (doc : Document) :
    (join.filter field keys).accepts doc = true ↔ join.Selects field keys doc := by
  have hstring (s : String) : (doc.get? field).getD .null = .string s ↔
      doc.get? field = some (.string s) := by
    cases doc.get? field <;> simp
  cases join with
  | allRecords =>
    simp [filter, Filter.accepts, Filter.insert, Filter.empty, Entries.put, Condition.accepts,
      Selects, Literal.equals_text, hstring, mem_distinctKeys, and_assoc]
  | lastRecord =>
    cases hlast : keys.getLast? with
    | none => simp [filter, hlast, Filter.accepts, Filter.empty, Selects]
    | some key =>
      simp [filter, hlast, Filter.accepts, Filter.eq, Filter.insert, Filter.empty, Entries.put,
        Condition.accepts, Selects, Literal.equals_text, hstring]

/-- Which documents are joined to all records depends only on the keys other than nil. -/
theorem selects_allRecords_congr {keys others : List EntityId}
    (h : ∀ key, key ≠ .nil → (key ∈ keys ↔ key ∈ others)) (field : String) (doc : Document) :
    allRecords.Selects field keys doc ↔ allRecords.Selects field others doc := by
  constructor
  · rintro ⟨key, hmem, hne, hget⟩
    exact ⟨key, (h key hne).mp hmem, hne, hget⟩
  · rintro ⟨key, hmem, hne, hget⟩
    exact ⟨key, (h key hne).mpr hmem, hne, hget⟩

end ForeignKeyJoin

end Stockroom
