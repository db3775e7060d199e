import Stockroom.Document.Basic
import Stockroom.Json.Printer
import Stockroom.Store.Deadline

/-!
# Assigning keys

A document that is inserted keeps the key it has, if that is a text, and gets the next fresh key if
it has none. Any other key refuses the whole batch. Fresh keys are counted by the documents that
have them: those made for a batch that is refused or comes too late are seen by nobody and do not
count.
-/

namespace Stockroom

/-- An endless supply of fresh keys. -/
abbrev KeySupply := Nat → DocumentKey

namespace Document

/-- The refusal of a key that is no text. -/
def unsupportedKey (found : Json) : StoreError :=
  .serialization ("insert_many: unsupported _id value " ++ found.text)

/-- The keys of documents and the documents with their keys, and the number of fresh keys that
documents have after them. -/
def assignKeys (supply : KeySupply) : (issued : Nat) → List Document →
    Stored (List DocumentKey × List Document × Nat)
  | issued, [] => .ok ([], [], issued)
  | issued, doc :: rest =>
    match doc.present? DocumentKey.fieldName with
    | some (.string text) => do
      let (keys, docs, used) ← assignKeys supply issued rest
      return (⟨text⟩ :: keys, doc :: docs, used)
    | some other => .error (unsupportedKey other)
    | none => do
      let key := supply issued
      let (keys, docs, used) ← assignKeys supply (issued + 1) rest
      return (key :: keys, doc.insert DocumentKey.fieldName (.string key.text) :: docs, used)

end Document

end Stockroom
