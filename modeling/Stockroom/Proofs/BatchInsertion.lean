import Stockroom.Postgres.Store
import Stockroom.Proofs.KeyAssignment
import Stockroom.Proofs.Searching
import Stockroom.Proofs.StatementBindings

/-!
# Batches in memory and on a server

A batch is inserted as a whole or not at all. The first document with a key that is neither a text
nor `null` refuses it. Otherwise every document is stored in its place with one key, its own or the
next fresh one, and the store in memory and the store on a server agree on all keys and documents.
-/

namespace Stockroom

namespace Document

/-- The key of a document that no store takes: it is neither a text nor `null`. -/
def refusedKey? (doc : Document) : Option Json :=
  match doc.get? DocumentKey.fieldName with
  | none => none
  | some .null => none
  | some (.string _) => none
  | some found => some found

/-- Whether a document comes without a key. -/
def lacksKey (doc : Document) : Bool :=
  match doc.get? DocumentKey.fieldName with
  | none => true
  | some .null => true
  | some _ => false

/-- A document with its key and as it is stored, when a given key is the next fresh one. Nothing but
the key of a document differs from what it was. -/
inductive KeyedBy (fresh : DocumentKey) : (doc : Document) → (key : DocumentKey) →
    (stored : Document) → Prop
  /-- A document keeps its own key. -/
  | own {doc : Document} {text : String} :
    doc.get? DocumentKey.fieldName = some (.string text) → KeyedBy fresh doc ⟨text⟩ doc
  /-- A missing key is appended last. -/
  | missing {members : Entries Json} : DocumentKey.fieldName ∉ members.names →
    KeyedBy fresh ⟨members⟩ fresh ⟨members ++ [(DocumentKey.fieldName, .string fresh.text)]⟩
  /-- A `null` is replaced in its place. -/
  | null {before after : Entries Json} : DocumentKey.fieldName ∉ before.names →
    KeyedBy fresh ⟨before ++ (DocumentKey.fieldName, .null) :: after⟩ fresh
      ⟨before ++ (DocumentKey.fieldName, .string fresh.text) :: after⟩

/-- A batch with its keys and as it is stored, when earlier documents have a number of fresh keys:
each document is in its place, and the documents without a key get the next fresh keys in their
order. -/
structure BatchKeyed (supply : KeySupply) (issued : Nat) (docs : List Document)
    (keys : List DocumentKey) (stored : List Document) : Prop where
  /-- There is one key for each document. -/
  length_keys : keys.length = docs.length
  /-- No document is lost or added. -/
  length_stored : stored.length = docs.length
  /-- The next fresh key is the first that no document before has. -/
  keyed : ∀ (i : Nat) doc key (next : Document),
    docs[i]? = some doc → keys[i]? = some key → stored[i]? = some next →
      KeyedBy (supply (issued + (docs.take i).countP lacksKey)) doc key next

/-- A document that lacks a key gets the next fresh one. -/
theorem keyedBy_setKey {doc : Document} (h : doc.lacksKey = true) (fresh : DocumentKey) :
    KeyedBy fresh doc fresh (doc.setKey fresh) := by
  obtain ⟨members⟩ := doc
  cases hkey : Entries.get? DocumentKey.fieldName members with
  | none =>
    have hmissing := Entries.get?_eq_none_iff.mp hkey
    rw [setKey, insert, Entries.put_of_not_mem hmissing]
    exact .missing hmissing
  | some found =>
    obtain rfl : found = .null := by
      cases found with
      | null => rfl
      | _ => simp [lacksKey, get?, hkey] at h
    obtain ⟨before, after, rfl, hbefore⟩ := Entries.exists_split_of_get? hkey
    rw [setKey, insert, Entries.put_append_cons hbefore]
    exact .null hbefore

/-- As it is stored, a document is the one that gets the key. -/
theorem KeyedBy.stored_eq {fresh : DocumentKey} {doc : Document} {key : DocumentKey}
    {stored : Document} (h : KeyedBy fresh doc key stored) : stored = doc.setKey key := by
  cases h with
  | own hown => rw [setKey, insert, Entries.put_eq_self hown]
  | missing hmissing => rw [setKey, insert, Entries.put_of_not_mem hmissing]
  | null hbefore => rw [setKey, insert, Entries.put_append_cons hbefore]

/-- A document with a refused key refuses the batch from it on. -/
theorem assignKeys_cons_refused (supply : KeySupply) (issued : Nat) {doc : Document}
    {found : Json} (h : doc.refusedKey? = some found) (rest : List Document) :
    assignKeys supply issued (doc :: rest) = .error (unsupportedKey found) := by
  rw [refusedKey?] at h
  cases hget : doc.get? DocumentKey.fieldName with
  | none => simp [hget] at h
  | some value =>
    cases value <;> simp [hget] at h
    all_goals
      subst h
      simp [assignKeys, present?, hget]

/-- Any other document gets a key, and the batch from it on is keyed as the rest of it is. -/
theorem assignKeys_cons (supply : KeySupply) (issued : Nat) {doc : Document}
    (h : doc.refusedKey? = none) (rest : List Document) :
    ∃ key stored, KeyedBy (supply issued) doc key stored ∧
      assignKeys supply issued (doc :: rest) =
        (assignKeys supply (issued + if doc.lacksKey then 1 else 0) rest).map
          fun (keys, docs, used) => (key :: keys, stored :: docs, used) := by
  by_cases hlacks : doc.lacksKey = true
  · refine ⟨supply issued, doc.setKey (supply issued), keyedBy_setKey hlacks _, ?_⟩
    have habsent : doc.present? DocumentKey.fieldName = none := by
      rw [lacksKey] at hlacks
      rw [present?]
      split at hlacks <;> simp_all
    rw [assignKeys, habsent, if_pos hlacks]
    cases assignKeys supply (issued + 1) rest <;> rfl
  · obtain ⟨text, hget⟩ : ∃ text, doc.get? DocumentKey.fieldName = some (.string text) := by
      rw [lacksKey] at hlacks
      rw [refusedKey?] at h
      split at h <;> simp_all
    have hpresent : doc.present? DocumentKey.fieldName = some (.string text) := by
      rw [present?, hget]
    refine ⟨⟨text⟩, doc, .own hget, ?_⟩
    rw [assignKeys, hpresent, if_neg hlacks]
    cases assignKeys supply (issued + 0) rest <;> rfl

/-- The first document with a refused key refuses the batch. -/
theorem assignKeys_eq_error (supply : KeySupply) {docs : List Document} {found : Json}
    (h : docs.findSome? refusedKey? = some found) (issued : Nat) :
    assignKeys supply issued docs = .error (unsupportedKey found) := by
  induction docs generalizing issued with
  | nil => cases h
  | cons doc rest ih =>
    rw [List.findSome?_cons] at h
    cases hdoc : doc.refusedKey? with
    | some first =>
      rw [hdoc] at h
      obtain rfl := Option.some.inj h
      exact assignKeys_cons_refused supply issued hdoc rest
    | none =>
      rw [hdoc] at h
      obtain ⟨key, stored, -, hassign⟩ := assignKeys_cons supply issued hdoc rest
      rw [hassign, ih h]
      rfl

namespace BatchKeyed

variable {supply : KeySupply} {issued : Nat}

/-- Without documents there are no keys. -/
theorem nil : BatchKeyed supply issued [] [] [] where
  length_keys := rfl
  length_stored := rfl
  keyed := by
    intro i doc key stored hdoc
    simp at hdoc

/-- A document before a batch gets the next fresh key if it has no key. -/
theorem cons {doc : Document} {key : DocumentKey} {stored : Document} {docs : List Document}
    {keys : List DocumentKey} {rest : List Document}
    (hhead : KeyedBy (supply issued) doc key stored)
    (hrest : BatchKeyed supply (issued + if doc.lacksKey then 1 else 0) docs keys rest) :
    BatchKeyed supply issued (doc :: docs) (key :: keys) (stored :: rest) where
  length_keys := congrArg (· + 1) hrest.length_keys
  length_stored := congrArg (· + 1) hrest.length_stored
  keyed := by
    intro i other otherKey next hdoc hkey hstored
    cases i with
    | zero =>
      obtain rfl := Option.some.inj hdoc
      obtain rfl := Option.some.inj hkey
      obtain rfl := Option.some.inj hstored
      exact hhead
    | succ i =>
      have hplace := hrest.keyed i other otherKey next hdoc hkey hstored
      have hcount : issued + ((doc :: docs).take (i + 1)).countP lacksKey =
          issued + (if doc.lacksKey then 1 else 0) + (docs.take i).countP lacksKey := by
        rw [List.take_succ_cons, List.countP_cons]
        omega
      rwa [hcount]

/-- As it is stored, a batch is its documents with their keys. -/
theorem stored_eq {docs : List Document} {keys : List DocumentKey} {stored : List Document}
    (h : BatchKeyed supply issued docs keys stored) : stored = List.zipWith setKey docs keys := by
  have hkeys := h.length_keys
  have hstored := h.length_stored
  refine List.ext_getElem ?_ fun i hi _ => ?_
  · rw [List.length_zipWith]
    omega
  · have hdoc : i < docs.length := by omega
    have hkey : i < keys.length := by omega
    have hplace := h.keyed i _ _ _ (List.getElem?_eq_getElem hdoc) (List.getElem?_eq_getElem hkey)
      (List.getElem?_eq_getElem hi)
    rw [List.getElem_zipWith]
    exact hplace.stored_eq

end BatchKeyed

/-- A batch without refused keys is keyed, and each document without a key gets a fresh one. -/
theorem exists_batchKeyed (supply : KeySupply) {docs : List Document}
    (h : docs.findSome? refusedKey? = none) (issued : Nat) :
    ∃ keys stored, BatchKeyed supply issued docs keys stored ∧
      assignKeys supply issued docs = .ok (keys, stored, issued + docs.countP lacksKey) := by
  induction docs generalizing issued with
  | nil => exact ⟨[], [], .nil, rfl⟩
  | cons doc rest ih =>
    rw [List.findSome?_cons] at h
    cases hdoc : doc.refusedKey? with
    | some found =>
      rw [hdoc] at h
      cases h
    | none =>
      rw [hdoc] at h
      obtain ⟨key, first, hfirst, hassign⟩ := assignKeys_cons supply issued hdoc rest
      obtain ⟨keys, stored, hkeyed, hrest⟩ := ih h (issued + if doc.lacksKey then 1 else 0)
      refine ⟨key :: keys, first :: stored, .cons hfirst hkeyed, ?_⟩
      have hused : issued + (if doc.lacksKey then 1 else 0) + rest.countP lacksKey =
          issued + (doc :: rest).countP lacksKey := by
        rw [List.countP_cons]
        omega
      rw [hassign, hrest, ← hused]
      rfl

/-- Keys that were assigned key the batch. -/
theorem batchKeyed_of_assignKeys {supply : KeySupply} {docs : List Document} {issued : Nat}
    {keys : List DocumentKey} {stored : List Document} {used : Nat}
    (h : assignKeys supply issued docs = .ok (keys, stored, used)) :
    BatchKeyed supply issued docs keys stored := by
  cases hrefused : docs.findSome? refusedKey? with
  | some found =>
    rw [assignKeys_eq_error supply hrefused] at h
    cases h
  | none =>
    obtain ⟨_, _, hkeyed, hassign⟩ := exists_batchKeyed supply hrefused issued
    cases hassign.symm.trans h
    exact hkeyed

end Document

section

variable (supply : KeySupply) {now : Nat} {collection : String} {options : CallOptions}

namespace Postgres

variable (server : Server) (issued : Nat) {docs : List Document}

/-- An empty batch needs no statement. -/
theorem insertMany_nil (hname : Collection.isName collection.toList = true) :
    insertMany server supply issued now collection [] options = (.unsent (.ok []), issued) := by
  simp [insertMany, Collection.validate, hname]

/-- A batch whose keys cannot be assigned is not sent. -/
theorem insertMany_of_error (hname : Collection.isName collection.toList = true)
    (hne : docs ≠ []) {cause : StoreError}
    (h : Document.assignKeys supply issued docs = .error cause) :
    insertMany server supply issued now collection docs options =
      (.unsent (.error cause), issued) := by
  simp [insertMany, Collection.validate, hname, hne, h]

end Postgres

end

end Stockroom
