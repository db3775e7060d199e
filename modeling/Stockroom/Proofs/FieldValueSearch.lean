import Stockroom.Proofs.CallDiscipline
import Stockroom.Proofs.GroupSearch

/-!
# Searches for the value of a field

A list of field and value pairs asks for one equality, that of its last usable pair. Main statement:
the filter depends on that pair alone and a refusal on its place too, so neither the pairs before it
nor unusable pairs behind it matter; and a search for a text or a number finds, in their order, all
documents that hold the value itself, and besides them at most documents with a number of the same
double.
-/

namespace Stockroom

namespace FieldValue

/-- Whether a pair has a field and a value, neither of them empty. -/
def Usable (pair : FieldValue) : Prop :=
  pair.field ≠ "" ∧ pair.value ≠ .null ∧ pair.value ≠ .string ""

theorem isUsable_iff {pair : FieldValue} : pair.isUsable = true ↔ pair.Usable := by
  simp [isUsable, Usable, and_assoc]

instance (pair : FieldValue) : Decidable pair.Usable :=
  decidable_of_iff _ isUsable_iff

/-- Whether a pair stands at a place of a list and is the last usable one there. -/
def IsLast (pair : FieldValue) (place : Nat) (pairs : List FieldValue) : Prop :=
  ∃ before after, pairs = before ++ pair :: after ∧ before.length = place ∧ pair.Usable ∧
    ∀ later ∈ after, ¬ later.Usable

/-- What a pair at a place of a list compiles to: a single equality for a text or a number, and a
refusal of that place for any other value. A number that is no signed word is compared as a
double. -/
def compiledAt (pair : FieldValue) (place : Nat) : Except ValidationError (Option Filter) :=
  match pair.value with
  | .string s => .ok (some ⟨[(pair.field, .eq (.text s))]⟩)
  | .number n =>
    .ok (some ⟨[(pair.field, .eq ((n.toInt64?.map Literal.int).getD (.float n.toDouble)))]⟩)
  | value => .error (.unsupportedValue place pair.field value)

/-- Unusable pairs behind it leave a pair the last usable one. -/
theorem IsLast.append {pair : FieldValue} {place : Nat} {pairs : List FieldValue}
    (h : pair.IsLast place pairs) {extra : List FieldValue}
    (hextra : ∀ later ∈ extra, ¬ later.Usable) : pair.IsLast place (pairs ++ extra) := by
  obtain ⟨before, after, rfl, hplace, husable, hafter⟩ := h
  refine ⟨before, after ++ extra, by simp, hplace, husable, ?_⟩
  exact List.forall_mem_append.mpr ⟨hafter, hextra⟩

/-- Pairs before it only move the last usable pair. -/
theorem IsLast.prepend {pair : FieldValue} {place : Nat} {pairs : List FieldValue}
    (h : pair.IsLast place pairs) (earlier : List FieldValue) :
    pair.IsLast (earlier.length + place) (earlier ++ pairs) := by
  obtain ⟨before, after, rfl, rfl, husable, hafter⟩ := h
  exact ⟨earlier ++ before, after, by simp, List.length_append, husable, hafter⟩

/-- A list has no usable pair, or a last one. -/
theorem exists_isLast (pairs : List FieldValue) : (∀ pair ∈ pairs, ¬ pair.Usable) ∨
    ∃ (pair : FieldValue) (place : Nat), pair.IsLast place pairs := by
  induction pairs using List.reverseRecOn with
  | nil => exact .inl (List.forall_mem_nil _)
  | append_singleton pairs pair ih =>
    by_cases husable : pair.Usable
    · exact .inr ⟨pair, pairs.length, pairs, [], rfl, rfl, husable, List.forall_mem_nil _⟩
    · have hlast : ∀ later ∈ [pair], ¬ later.Usable := List.forall_mem_singleton.mpr husable
      rcases ih with hnone | ⟨last, place, hfound⟩
      · exact .inl (List.forall_mem_append.mpr ⟨hnone, hlast⟩)
      · exact .inr ⟨last, place, hfound.append hlast⟩

end FieldValue

namespace Literal

/-- The literal of a number is the signed word that it is, or else its double. -/
theorem ofJson?_number (n : Json.Number) :
    ofJson? (.number n) = some ((n.toInt64?.map int).getD (float n.toDouble)) := by
  rw [ofJson?]
  cases n.toInt64? <;> rfl

end Literal

namespace Filter

open FieldValue (IsLast Usable)

variable {pairs : List FieldValue} {pair : FieldValue} {place : Nat}

/-- Pairs without a usable one compile to no filter. -/
theorem ofFieldValues_of_none (h : ∀ pair ∈ pairs, ¬ pair.Usable) :
    ofFieldValues pairs = .ok none :=
  ofFieldValues_eq_none fun pair hmem =>
    Bool.eq_false_iff.mpr (mt FieldValue.isUsable_iff.mp (h pair hmem))

/-- The last usable pair is found with its place. -/
theorem lastUsable?_of_isLast (h : pair.IsLast place pairs) :
    lastUsable? pairs = some (pair, place) := by
  obtain ⟨before, after, rfl, rfl, husable, hafter⟩ := h
  have hnone : (after.zipIdx (before.length + 1)).reverse.find? (fun later => later.1.isUsable) =
      none := by
    refine List.find?_eq_none.mpr fun later hmem => ?_
    have hlater := List.fst_mem_of_mem_zipIdx (List.mem_reverse.mp hmem)
    exact mt FieldValue.isUsable_iff.mp (hafter later.1 hlater)
  rw [lastUsable?, List.findRev?_eq_find?_reverse, List.zipIdx_append, List.zipIdx_cons,
    List.reverse_append, List.reverse_cons, List.append_assoc, List.find?_append, Nat.zero_add,
    hnone, Option.none_or, List.singleton_append]
  exact List.find?_cons_of_pos (FieldValue.isUsable_iff.mpr husable)

/-- Pairs compile to what their last usable pair does at its place. -/
theorem ofFieldValues_of_isLast (h : pair.IsLast place pairs) :
    ofFieldValues pairs = pair.compiledAt place := by
  rw [ofFieldValues, lastUsable?_of_isLast h, FieldValue.compiledAt]
  obtain ⟨field, value⟩ := pair
  cases value with
  | number n =>
    simp only [Literal.ofJson?_number]
    rfl
  | _ => rfl

/-- Unusable pairs at the end do not matter. -/
theorem ofFieldValues_append (pairs : List FieldValue) {extra : List FieldValue}
    (hextra : ∀ later ∈ extra, ¬ later.Usable) :
    ofFieldValues (pairs ++ extra) = ofFieldValues pairs := by
  rcases FieldValue.exists_isLast pairs with hnone | ⟨pair, place, hlast⟩
  · rw [ofFieldValues_of_none hnone,
      ofFieldValues_of_none (List.forall_mem_append.mpr ⟨hnone, hextra⟩)]
  · rw [ofFieldValues_of_isLast hlast, ofFieldValues_of_isLast (hlast.append hextra)]

/-- As many other pairs before a usable one do not matter either. -/
theorem ofFieldValues_prepend {before changed rest : List FieldValue}
    (hlength : changed.length = before.length) (husable : ∃ pair ∈ rest, pair.Usable) :
    ofFieldValues (changed ++ rest) = ofFieldValues (before ++ rest) := by
  rcases FieldValue.exists_isLast rest with hnone | ⟨pair, place, hlast⟩
  · obtain ⟨pair, hmem, hpair⟩ := husable
    exact absurd hpair (hnone pair hmem)
  · rw [ofFieldValues_of_isLast (hlast.prepend changed),
      ofFieldValues_of_isLast (hlast.prepend before), hlength]

/-- A pair with a text or a number compiles to the equality with its literal. -/
theorem exists_compiledAt (h : pair.value.IsTextOrNumber) (place : Nat) : ∃ literal,
    Literal.ofJson? pair.value = some literal ∧
      pair.compiledAt place = .ok (some (eq pair.field literal)) := by
  obtain ⟨field, value⟩ := pair
  cases value with
  | string s => exact ⟨_, rfl, rfl⟩
  | number n => exact ⟨_, Literal.ofJson?_number n, rfl⟩
  | _ => exact h.elim

/-- An equality looks at one member, which has to be there. -/
theorem accepts_eq_iff {field : String} {literal : Literal} {doc : Document} :
    (eq field literal).accepts doc = true ↔
      ∃ found, doc.get? field = some found ∧ literal.equals found = true := by
  have haccepts : (eq field literal).accepts doc =
      literal.equals ((doc.get? field).getD .null) := Bool.and_true _
  have hnull : literal.equals .null = false := by cases literal <;> rfl
  rw [haccepts]
  cases doc.get? field <;> simp [hnull]

end Filter

namespace Document

/-- Whether a field of a document holds a value, the two zeros being one. -/
def holds (field : String) (value : Json) (doc : Document) : Bool :=
  (doc.get? field).any fun found => decide (value.Same found)

theorem holds_iff {field : String} {value : Json} {doc : Document} :
    doc.holds field value = true ↔ ∃ found, doc.get? field = some found ∧ value.Same found := by
  unfold holds
  cases doc.get? field <;> simp

end Document

/-- Whether a search found a value of a field: all documents that hold the value, in their order and
as often as they are there, and besides them at most documents that hold a number with the double of
the value. -/
structure FindsValue (field : String) (value : Json) (docs found : List Document) : Prop where
  sublist : found.Sublist docs
  complete : found.filter (Document.holds field value) = docs.filter (Document.holds field value)
  text : ∀ s, value = .string s → ∀ doc ∈ found, doc.get? field = some (.string s)
  number : ∀ n, value = .number n → ∀ doc ∈ found,
    ∃ m, doc.get? field = some (.number m) ∧ m.toDouble.equals n.toDouble = true

/-- The equality with the literal of a value finds the value. -/
theorem findsValue_filter {field : String} {value : Json} {literal : Literal}
    (h : Literal.ofJson? value = some literal) (docs : List Document) :
    FindsValue field value docs (docs.filter (Filter.eq field literal).accepts) where
  sublist := List.filter_sublist
  complete := by
    rw [List.filter_filter]
    refine List.filter_congr fun doc _ => ?_
    cases hholds : doc.holds field value with
    | false => rfl
    | true =>
      obtain ⟨found, hfound, hsame⟩ := Document.holds_iff.mp hholds
      have haccepts : (Filter.eq field literal).accepts doc = true :=
        Filter.accepts_eq_iff.mpr ⟨found, hfound, Literal.equals_of_same h hsame⟩
      rw [haccepts, Bool.and_self]
  text s hs doc hdoc := by
    subst hs
    obtain ⟨found, hfound, hequals⟩ := Filter.accepts_eq_iff.mp (List.mem_filter.mp hdoc).2
    have htext : Literal.text s = literal := Option.some.inj h
    rw [← htext, Literal.equals_text] at hequals
    rw [hfound, hequals]
  number n hn doc hdoc := by
    subst hn
    obtain ⟨found, hfound, hequals⟩ := Filter.accepts_eq_iff.mp (List.mem_filter.mp hdoc).2
    obtain ⟨m, rfl, hround, -⟩ := (Literal.equals_number_iff h found).mp hequals
    exact ⟨m, hfound, (Json.Number.equals_toDouble_iff m n).mpr hround⟩

namespace ReportService

open FieldValue (IsLast Usable)

/-- With the store in memory a search in time answers with the documents that the filter of the
pairs accepts, and changes nothing. -/
theorem searchByFieldValue_memory {collection : String} {pairs : List FieldValue}
    {filter : Filter} {options : CallOptions} {now : Nat} (supply : KeySupply) (memory : Memory)
    (hname : Collection.isName collection.toList = true) (hlive : options.isExpired now = false)
    (hcompiles : Filter.ofFieldValues pairs = .ok (some filter)) :
    (searchByFieldValue collection pairs options).run (Memory.handler supply now) memory =
      (Reporting.orNoResults .searchByFieldValue
        ((memory.documents collection).filter filter.accepts), memory) := by
  rw [Reporting.run, run_searchByFieldValue, hcompiles]
  simp only [Session.run, Memory.handler, memory.find_eq_ok hlive hname, Reporting.onReply]

/-- A list of pairs compiles to what its last usable pair does at its place, and without one to no
filter. The pairs before it and unusable pairs behind all others do not matter. A search for a text
or a number answers with the documents that hold the value and at most with others that hold a
number of the same double, or complains that there are none. -/
theorem searchByFieldValue_exact :
    (∀ pairs : List FieldValue, (∀ pair ∈ pairs, ¬ pair.Usable) →
      Filter.ofFieldValues pairs = .ok none) ∧
    (∀ (pairs : List FieldValue) (pair : FieldValue) (place : Nat), pair.IsLast place pairs →
      Filter.ofFieldValues pairs = pair.compiledAt place) ∧
    (∀ before changed rest : List FieldValue, changed.length = before.length →
      (∃ pair ∈ rest, pair.Usable) →
      Filter.ofFieldValues (changed ++ rest) = Filter.ofFieldValues (before ++ rest)) ∧
    (∀ pairs extra : List FieldValue, (∀ later ∈ extra, ¬ later.Usable) →
      Filter.ofFieldValues (pairs ++ extra) = Filter.ofFieldValues pairs) ∧
    ∀ (memory : Memory) (supply : KeySupply) (now : Nat) (collection : String)
      (options : CallOptions) (pairs : List FieldValue) (pair : FieldValue) (place : Nat),
      Collection.isName collection.toList = true → options.isExpired now = false →
      pair.IsLast place pairs → pair.value.IsTextOrNumber →
      ∃ found, FindsValue pair.field pair.value (memory.documents collection) found ∧
        (searchByFieldValue collection pairs options).run (Memory.handler supply now) memory =
          (Reporting.orNoResults .searchByFieldValue found, memory) := by
  refine ⟨fun pairs => Filter.ofFieldValues_of_none,
    fun pairs pair place => Filter.ofFieldValues_of_isLast,
    fun before changed rest => Filter.ofFieldValues_prepend,
    fun pairs extra => Filter.ofFieldValues_append pairs, ?_⟩
  · intro memory supply now collection options pairs pair place hname hlive hlast hvalue
    obtain ⟨literal, hliteral, hcompiled⟩ := Filter.exists_compiledAt hvalue place
    have hcompiles := (Filter.ofFieldValues_of_isLast hlast).trans hcompiled
    exact ⟨_, findsValue_filter hliteral _,
      searchByFieldValue_memory supply memory hname hlive hcompiles⟩

/-- The last usable pair asks for the greatest unsigned word. An unusable pair follows it, and a
pair whose value is no text and no number stands before it. -/
theorem searchByFieldValue_exact_unsigned :
    let greatest : Json := .number (.integer 18446744073709551615 (by decide))
    let pair : FieldValue := ⟨"v", greatest⟩
    let pairs : List FieldValue := [⟨"v", .bool true⟩, pair, ⟨"v", .string ""⟩]
    let docs : List Document := [⟨[("v", .string "18446744073709551615")]⟩, ⟨[("v", greatest)]⟩,
      ⟨[("v", .number (.integer 18446744073709551614 (by decide)))]⟩, .empty]
    let memory : Memory := ⟨[("stock", docs)], 0⟩
    Collection.isName "stock".toList = true ∧ CallOptions.unbounded.isExpired 0 = false ∧
      pair.IsLast 1 pairs ∧ pair.value.IsTextOrNumber ∧
      Filter.ofFieldValues pairs = Filter.ofFieldValues [⟨"w", .null⟩, pair] ∧
      ∃ found, FindsValue "v" greatest docs found ∧
        (searchByFieldValue "stock" pairs .unbounded).run
            (Memory.handler (fun _ => ⟨"k"⟩) 0) memory =
          (Reporting.orNoResults .searchByFieldValue found, memory) := by
  intro greatest pair pairs docs memory
  obtain ⟨-, -, hchanged, hextra, hsearch⟩ := searchByFieldValue_exact
  have hname : Collection.isName "stock".toList = true := by decide
  have hlive : CallOptions.unbounded.isExpired 0 = false := rfl
  have husable : pair.Usable := by decide
  have hunusable : ∀ later ∈ [(⟨"v", .string ""⟩ : FieldValue)], ¬ later.Usable := by decide
  have hlast : pair.IsLast 1 pairs := ⟨[⟨"v", .bool true⟩], _, rfl, rfl, husable, hunusable⟩
  have hshorter := hextra [⟨"v", .bool true⟩, pair] [⟨"v", .string ""⟩] hunusable
  have hother := hchanged [⟨"w", .null⟩] [⟨"v", .bool true⟩] [pair] rfl
    ⟨pair, List.mem_cons_self, husable⟩
  exact ⟨hname, hlive, hlast, trivial, hshorter.trans hother,
    hsearch memory _ 0 "stock" .unbounded pairs pair 1 hname hlive hlast trivial⟩

end ReportService

end Stockroom
