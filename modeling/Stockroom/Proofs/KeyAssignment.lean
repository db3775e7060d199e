import Mathlib.Data.List.Forall2
import Stockroom.Entity.Inventory
import Stockroom.Proofs.Clauses
import Stockroom.Proofs.Codec
import Stockroom.Store.Keys

/-!
# Keys of inserted documents

The documents of entities have a text for a key or none, so a whole batch of them gets its keys: one
for each document, the one that is there or a fresh one. Apart from the key a document stays as it
is and still holds its entity.
-/

namespace Stockroom

namespace Document

/-- The document with a key. -/
def setKey (doc : Document) (key : DocumentKey) : Document :=
  doc.insert DocumentKey.fieldName (.string key.text)

/-- Whether a document can get a key: it has no other one. -/
def AllowsKey (doc : Document) (key : DocumentKey) : Prop :=
  ∀ found, doc.present? DocumentKey.fieldName = some found → found = .string key.text

/-- A document that has a key stays as it is when it gets that key. -/
theorem setKey_eq_self {doc : Document} {key : DocumentKey}
    (h : doc.present? DocumentKey.fieldName = some (.string key.text)) : doc.setKey key = doc := by
  have hget : doc.get? DocumentKey.fieldName = some (.string key.text) := by
    rw [present?] at h
    split at h
    case h_1 => cases h
    case h_2 => exact h
  rw [setKey, insert, Entries.put_eq_self hget]

/-- Documents that can get a key do get one each. -/
theorem assignKeys_eq_ok (supply : KeySupply) {docs : List Document}
    (h : ∀ doc ∈ docs, ∃ key, doc.AllowsKey key) (issued : Nat) :
    ∃ keys used, assignKeys supply issued docs = .ok (keys, List.zipWith setKey docs keys, used) ∧
      List.Forall₂ AllowsKey docs keys := by
  induction docs generalizing issued with
  | nil => exact ⟨[], issued, rfl, .nil⟩
  | cons doc rest ih =>
    have hrest := ih fun other hmem => h other (List.mem_cons_of_mem _ hmem)
    rw [assignKeys]
    cases hkey : doc.present? DocumentKey.fieldName with
    | none =>
      obtain ⟨keys, used, hassign, hkeys⟩ := hrest (issued + 1)
      have hallows : doc.AllowsKey (supply issued) := by
        intro found hfound
        rw [hkey] at hfound
        cases hfound
      refine ⟨supply issued :: keys, used, ?_, .cons hallows hkeys⟩
      simp only [hassign, bind, Except.bind, pure, Except.pure, List.zipWith_cons_cons, setKey]
    | some found =>
      obtain ⟨key, hallows⟩ := h doc List.mem_cons_self
      obtain rfl := hallows found hkey
      obtain ⟨keys, used, hassign, hkeys⟩ := hrest issued
      refine ⟨key :: keys, used, ?_, .cons hallows hkeys⟩
      simp only [hassign, bind, Except.bind, pure, Except.pure, List.zipWith_cons_cons,
        setKey_eq_self hkey]

end Document

namespace Schema

variable {rest : Schema} {key? : Option DocumentKey} {values : rest.Values} {doc : Document}

/-- The key that a document holds is a text. -/
theorem present?_key (h : doc.Holds (members (.key :: rest) (key?, values))) :
    doc.present? DocumentKey.fieldName = key?.map fun key => .string key.text := by
  have hget : doc.get? DocumentKey.fieldName = key?.map fun key => .string key.text :=
    (Document.holds_cons.mp h).1
  rw [Document.present?, hget]
  cases key? <;> rfl

/-- A document that holds a key or none can get a key. -/
theorem exists_allowsKey (h : doc.Holds (members (.key :: rest) (key?, values))) :
    ∃ key, doc.AllowsKey key := by
  refine ⟨key?.getD ⟨""⟩, fun found hfound => ?_⟩
  rw [present?_key h] at hfound
  cases key? with
  | none => cases hfound
  | some key => exact (Option.some.inj hfound).symm

/-- A document that gets a key holds the values with that key in place of a missing one. -/
theorem holds_setKey (hnodup : (names (.key :: rest)).Nodup)
    (h : doc.Holds (members (.key :: rest) (key?, values))) {key : DocumentKey}
    (hkey : doc.AllowsKey key) :
    (doc.setKey key).Holds (members (.key :: rest) (some (key?.getD key), values)) := by
  have hsame : key?.getD key = key := by
    cases key? with
    | none => rfl
    | some own =>
      have htext := Json.string.inj (hkey _ (present?_key h))
      cases own
      cases key
      exact congrArg DocumentKey.mk htext
  refine Document.holds_cons.mpr ⟨?_, ?_⟩
  · rw [hsame]
    exact Document.get?_insert_self doc _ _
  · refine (Document.holds_cons.mp h).2.insert_of_not_mem ?_ _
    rw [map_fst_members]
    exact (List.nodup_cons.mp hnodup).1

end Schema

namespace Inventory

/-- The item with the key that the store has given it, unless it had one before. -/
def keyed (item : Inventory) (key : DocumentKey) : Inventory :=
  { item with key := some (item.key.getD key) }

/-- A document that gets a key holds its item with that key. -/
theorem heldBy_setKey {item : Inventory} {doc : Document} (h : Entity.HeldBy item doc)
    {key : DocumentKey} (hkey : doc.AllowsKey key) :
    Entity.HeldBy (item.keyed key) (doc.setKey key) :=
  Schema.holds_setKey (Entity.names_nodup (α := Inventory)) h hkey

/-- A key leaves the doubles of an item as they are. -/
theorem isFinite_keyed (item : Inventory) (key : DocumentKey) :
    Entity.isFinite (item.keyed key) = Entity.isFinite item := rfl

/-- The documents of items that get keys hold the items with these keys. -/
theorem heldBy_zipWith {items : List Inventory} {keys : List DocumentKey}
    (h : List.Forall₂ Document.AllowsKey (Entity.toDocuments items) keys) :
    List.Forall₂ (fun doc item => Entity.HeldBy item doc)
      (List.zipWith Document.setKey (Entity.toDocuments items) keys)
      (List.zipWith keyed items keys) := by
  induction items generalizing keys with
  | nil => exact .nil
  | cons item rest ih =>
    rw [Entity.toDocuments, List.map_cons] at h ⊢
    obtain ⟨key, others, hkey, hrest, rfl⟩ := List.forall₂_cons_left_iff.mp h
    rw [List.zipWith_cons_cons, List.zipWith_cons_cons]
    exact .cons (heldBy_setKey (Entity.heldBy_toDocument item) hkey) (ih hrest)

end Inventory

end Stockroom
