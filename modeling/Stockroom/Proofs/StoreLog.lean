import Stockroom.Proofs.BatchInsertion
import Stockroom.Proofs.Observations

/-!
# The store in memory as a log

Clients of the store in memory take turns: each call is answered as a whole when it has the store to
itself. What a call looks at before its turn, the clock and the fresh keys that it draws, is its own,
so a run is any list of calls, whoever makes them. Main invariant: the documents of a collection are
the batches of the insertions into it that succeeded, in the order of the calls, and every answer is
true of the batches before it.
-/

namespace Stockroom

/-- A call at the store in memory. -/
inductive Visit
  /-- A request, with its moment and the fresh keys for its documents. -/
  | request (now : Nat) (supply : KeySupply) (request : Request)
  /-- The number of documents of a collection. -/
  | count (collection : String)

/-- A call with the answer to it. -/
inductive Visited
  | exchange (exchange : Exchange)
  | counted (collection : String) (number : Nat)

namespace Visit

/-- The collection into which a call is to insert. -/
def target? : Visit → Option String
  | request _ _ (.insertMany collection _ _) => some collection
  | _ => none

end Visit

namespace Visited

/-- What a call has added to a collection: the documents of an insertion with the keys that it has
returned. -/
def batch (collection : String) : Visited → List Document
  | exchange ⟨.insertMany target docs _, .ok keys⟩ =>
    if target = collection then List.zipWith Document.setKey docs keys else []
  | _ => []

/-- Whether a call has failed. -/
def failed : Visited → Bool
  | exchange ⟨_, .error _⟩ => true
  | _ => false

/-- Whether an answer is one to a call. -/
def AnswerTo (visit : Visit) (visited : Visited) : Prop :=
  match visit, visited with
  | .request _ _ request, .exchange answered => answered.request = request
  | .count collection, .counted target _ => target = collection
  | _, _ => False

/-- Whether an answer is true of given contents of the collections. -/
def TrueOf (contents : String → List Document) : Visited → Prop
  | exchange ⟨.find collection filter _, .ok docs⟩ =>
    docs = (contents collection).filter filter.accepts
  | exchange ⟨.aggregate collection pipeline _, .ok rows⟩ =>
    rows = pipeline.apply (contents collection)
  | exchange ⟨.insertMany _ docs _, .ok keys⟩ => keys.length = docs.length
  | exchange _ => True
  | counted collection number => number = (contents collection).length

/-- A call adds nothing to a collection if it fails or is not to insert into it. -/
theorem batch_eq_nil {visit : Visit} {visited : Visited} (hanswer : visited.AnswerTo visit)
    {collection : String} (h : visited.failed = true ∨ visit.target? ≠ some collection) :
    visited.batch collection = [] := by
  cases visited with
  | counted counted number => rfl
  | exchange exchange =>
    obtain ⟨request, reply⟩ := exchange
    cases visit with
    | count counted => exact hanswer.elim
    | request now supply asked =>
      obtain rfl : request = asked := hanswer
      cases request with
      | find _ _ _ => rfl
      | aggregate _ _ _ => rfl
      | insertMany target docs options =>
        cases reply with
        | error cause => rfl
        | ok keys =>
          have hother : target ≠ collection := by
            rintro rfl
            rcases h with hfailed | htarget
            · cases hfailed
            · exact htarget rfl
          exact if_neg hother

end Visited

/-- The batches of a collection that calls have added, one after the other. -/
def contentsOf (log : List Visited) (collection : String) : List Document :=
  log.flatMap (Visited.batch collection)

/-- The store in memory together with the calls that it has answered. -/
structure Ledger where
  memory : Memory
  log : List Visited

namespace Ledger

/-- The store without documents, before any call. -/
def empty : Ledger := ⟨.empty, []⟩

/-- One more call. -/
def step (ledger : Ledger) : Visit → Ledger
  | .request now supply request =>
    let (reply, memory) := Memory.handler supply now request ledger.memory
    ⟨memory, ledger.log ++ [.exchange ⟨request, reply⟩]⟩
  | .count collection =>
    ⟨ledger.memory, ledger.log ++ [.counted collection (ledger.memory.count collection)]⟩

/-- Calls in their order. -/
def run (visits : List Visit) (ledger : Ledger) : Ledger :=
  visits.foldl step ledger

end Ledger

namespace Memory

/-- An aggregation that succeeds answers with the rows of its pipeline. -/
theorem eq_of_aggregate_eq_ok {memory : Memory} {now : Nat} {collection : String}
    {pipeline : Pipeline} {options : CallOptions} {rows : List Document}
    (h : memory.aggregate now collection pipeline options = .ok rows) :
    rows = pipeline.apply (memory.documents collection) := by
  rw [aggregate] at h
  cases hcheck : checkCall now "aggregate" collection options with
  | error cause => simp [hcheck, bind, Except.bind] at h
  | ok _ =>
    rw [hcheck] at h
    exact (Except.ok.inj h).symm

/-- An insertion that succeeds returns one key for each document and appends the documents with
these keys, which are texts. -/
theorem eq_of_insertMany_eq_ok {memory next : Memory} {supply : KeySupply} {now : Nat}
    {collection : String} {docs : List Document} {options : CallOptions}
    {keys : List DocumentKey}
    (h : memory.insertMany supply now collection docs options = .ok (keys, next)) :
    keys.length = docs.length ∧
      (∃ used, next = memory.append collection (List.zipWith Document.setKey docs keys) used) ∧
      ∀ doc ∈ List.zipWith Document.setKey docs keys,
        ∃ text, doc.get? DocumentKey.fieldName = some (.string text) := by
  rw [insertMany] at h
  cases hcheck : checkCall now "insert_many" collection options with
  | error cause => simp [hcheck, bind, Except.bind] at h
  | ok _ =>
    cases hrefused : docs.findSome? Document.refusedKey? with
    | some found =>
      have hassign := Document.assignKeys_eq_error supply hrefused memory.issued
      simp [hcheck, hassign, bind, Except.bind] at h
    | none =>
      obtain ⟨assigned, stored, hkeyed, hassign⟩ :=
        Document.exists_batchKeyed supply hrefused memory.issued
      simp only [hcheck, hassign, bind, Except.bind] at h
      obtain ⟨rfl, rfl⟩ := Prod.mk.inj (Except.ok.inj h)
      obtain rfl := hkeyed.stored_eq
      refine ⟨hkeyed.length_keys, ⟨_, rfl⟩, fun doc hmem => ?_⟩
      obtain ⟨i, hi, rfl⟩ := List.mem_iff_getElem.mp hmem
      rw [List.getElem_zipWith]
      exact ⟨_, Document.get?_insert_self _ _ _⟩

end Memory

/-! ### One call -/

namespace Ledger

/-- What one more call does: its answer is logged and true of the store, its batch is added to the
collections, and each document of the batch has a text for a key. -/
structure Advances (ledger next : Ledger) (visit : Visit) (entry : Visited) : Prop where
  answers : entry.AnswerTo visit
  log_eq : next.log = ledger.log ++ [entry]
  trueOf : entry.TrueOf ledger.memory.documents
  documents_eq : ∀ collection,
    next.memory.documents collection = ledger.memory.documents collection ++ entry.batch collection
  keyed : ∀ collection, ∀ doc ∈ entry.batch collection,
    ∃ text, doc.get? DocumentKey.fieldName = some (.string text)

/-- A call that leaves the store as it is and adds no batch. -/
theorem advances_of_same {ledger : Ledger} {visit : Visit} {entry : Visited}
    (hanswer : entry.AnswerTo visit) (htrue : entry.TrueOf ledger.memory.documents)
    (hbatch : ∀ collection, entry.batch collection = []) :
    Advances ledger ⟨ledger.memory, ledger.log ++ [entry]⟩ visit entry where
  answers := hanswer
  log_eq := rfl
  trueOf := htrue
  documents_eq := by
    intro collection
    rw [hbatch, List.append_nil]
  keyed := by
    intro collection doc hmem
    rw [hbatch] at hmem
    cases hmem

/-- An insertion that appends its documents with keys that are texts. -/
theorem advances_of_append {ledger : Ledger} {collection : String} {docs : List Document}
    {options : CallOptions} {keys : List DocumentKey} (hlength : keys.length = docs.length)
    (hkeyed : ∀ doc ∈ List.zipWith Document.setKey docs keys,
      ∃ text, doc.get? DocumentKey.fieldName = some (.string text)) (used now : Nat)
    (supply : KeySupply) :
    let entry : Visited := .exchange ⟨.insertMany collection docs options, .ok keys⟩
    let memory := ledger.memory.append collection (List.zipWith Document.setKey docs keys) used
    Advances ledger ⟨memory, ledger.log ++ [entry]⟩
      (.request now supply (.insertMany collection docs options)) entry := by
  intro entry memory
  have hbatch (other : String) : entry.batch other =
      if collection = other then List.zipWith Document.setKey docs keys else [] := rfl
  refine ⟨rfl, rfl, hlength, fun other => ?_, fun other doc hmem => ?_⟩
  · rw [hbatch]
    by_cases hother : collection = other
    · subst hother
      rw [if_pos rfl]
      exact ledger.memory.documents_append_self collection _ used
    · rw [if_neg hother, List.append_nil]
      exact ledger.memory.documents_append_of_ne (Ne.symm hother) _ used
  · rw [hbatch] at hmem
    split at hmem
    case isTrue => exact hkeyed doc hmem
    case isFalse => cases hmem

/-- Every call advances the store. -/
theorem exists_advances (ledger : Ledger) (visit : Visit) :
    ∃ entry, Advances ledger (ledger.step visit) visit entry := by
  cases visit with
  | count collection => exact ⟨_, advances_of_same rfl rfl fun _ => rfl⟩
  | request now supply request =>
    cases request with
    | find collection filter options =>
      refine ⟨_, advances_of_same rfl ?_ fun _ => rfl⟩
      cases hfind : ledger.memory.find now collection filter options with
      | error cause => trivial
      | ok docs => exact Memory.eq_of_find_eq_ok hfind
    | aggregate collection pipeline options =>
      refine ⟨_, advances_of_same rfl ?_ fun _ => rfl⟩
      cases hrows : ledger.memory.aggregate now collection pipeline options with
      | error cause => trivial
      | ok rows => exact Memory.eq_of_aggregate_eq_ok hrows
    | insertMany collection docs options =>
      cases hinsert : ledger.memory.insertMany supply now collection docs options with
      | error cause =>
        have hstep : ledger.step (.request now supply (.insertMany collection docs options)) =
            ⟨ledger.memory, ledger.log ++
              [.exchange ⟨.insertMany collection docs options, .error cause⟩]⟩ := by
          simp only [step, Memory.handler, hinsert]
        rw [hstep]
        exact ⟨_, advances_of_same rfl trivial fun _ => rfl⟩
      | ok outcome =>
        obtain ⟨keys, next⟩ := outcome
        have hstep : ledger.step (.request now supply (.insertMany collection docs options)) =
            ⟨next, ledger.log ++ [.exchange ⟨.insertMany collection docs options, .ok keys⟩]⟩ := by
          simp only [step, Memory.handler, hinsert]
        obtain ⟨hlength, ⟨used, rfl⟩, hkeyed⟩ := Memory.eq_of_insertMany_eq_ok hinsert
        rw [hstep]
        exact ⟨_, advances_of_append hlength hkeyed used now supply⟩

/-- A call leaves a collection as it is if it fails or is not to insert into it. -/
theorem Advances.documents_same {ledger next : Ledger} {visit : Visit} {entry : Visited}
    (h : Advances ledger next visit entry) {collection : String}
    (hsame : entry.failed = true ∨ visit.target? ≠ some collection) :
    next.memory.documents collection = ledger.memory.documents collection := by
  rw [h.documents_eq, Visited.batch_eq_nil h.answers hsame, List.append_nil]

/-! ### Runs -/

/-- The main invariant of runs: the store is what its log says. -/
structure AppendOnly (visits : List Visit) (ledger : Ledger) : Prop where
  /-- The log holds the answers to the calls, in their order. -/
  logged : List.Forall₂ (fun visit entry => entry.AnswerTo visit) visits ledger.log
  /-- A collection is the batches that were added to it, one after the other. -/
  contents : ∀ collection, ledger.memory.documents collection = contentsOf ledger.log collection
  /-- Each document has a text for a key. -/
  keyed : ∀ collection, ∀ doc ∈ ledger.memory.documents collection,
    ∃ text, doc.get? DocumentKey.fieldName = some (.string text)
  /-- Each answer is true of the batches that were added before it. -/
  true_answers : ∀ earlier entry later, ledger.log = earlier ++ entry :: later →
    entry.TrueOf (contentsOf earlier)

namespace AppendOnly

/-- Before any call nothing is stored. -/
theorem empty : AppendOnly [] .empty where
  logged := .nil
  contents := fun _ => rfl
  keyed := fun _ => List.forall_mem_nil _
  true_answers := by
    intro earlier entry later hlog
    simp [Ledger.empty] at hlog

/-- One more call preserves that the store is what its log says. -/
theorem step {visits : List Visit} {ledger : Ledger} (h : AppendOnly visits ledger)
    (visit : Visit) : AppendOnly (visits ++ [visit]) (ledger.step visit) := by
  obtain ⟨entry, hentry⟩ := ledger.exists_advances visit
  have hcontents : ledger.memory.documents = contentsOf ledger.log := funext h.contents
  constructor
  case logged =>
    rw [hentry.log_eq]
    exact List.rel_append h.logged (.cons hentry.answers .nil)
  case contents =>
    intro collection
    rw [hentry.documents_eq, hentry.log_eq, h.contents, contentsOf, contentsOf,
      List.flatMap_append, List.flatMap_singleton]
  case keyed =>
    intro collection doc hmem
    rw [hentry.documents_eq] at hmem
    rcases List.mem_append.mp hmem with hold | hnew
    · exact h.keyed collection doc hold
    · exact hentry.keyed collection doc hnew
  case true_answers =>
    intro earlier other later hlog
    rw [hentry.log_eq] at hlog
    rcases List.eq_nil_or_concat later with rfl | ⟨before, last, rfl⟩
    · obtain ⟨rfl, hlast⟩ := List.append_inj' hlog rfl
      obtain rfl := List.singleton_inj.mp hlast
      rw [← hcontents]
      exact hentry.trueOf
    · rw [List.concat_eq_append, ← List.cons_append, ← List.append_assoc] at hlog
      obtain ⟨hbefore, -⟩ := List.append_inj' hlog rfl
      exact h.true_answers earlier other before hbefore

/-- After any calls the store is what its log says. -/
theorem run {visits : List Visit} {ledger : Ledger} (h : AppendOnly visits ledger)
    (later : List Visit) : AppendOnly (visits ++ later) (ledger.run later) := by
  induction later generalizing visits ledger with
  | nil =>
    rw [List.append_nil]
    exact h
  | cons visit rest ih =>
    have hrest := ih (h.step visit)
    rwa [List.append_assoc] at hrest

/-- A later search begins with what an earlier one for the same documents has found. -/
theorem found_prefix {visits : List Visit} {ledger : Ledger} (h : AppendOnly visits ledger)
    {collection : String} {filter : Filter} {options others : CallOptions}
    {first second : List Document} {earlier between later : List Visited}
    (hlog : ledger.log =
      earlier ++ .exchange ⟨.find collection filter options, .ok first⟩ :: between ++
        .exchange ⟨.find collection filter others, .ok second⟩ :: later) : first <+: second := by
  have hfirst : first = (contentsOf earlier collection).filter filter.accepts := by
    rw [List.append_assoc] at hlog
    exact h.true_answers earlier _ _ hlog
  have hsecond : second = (contentsOf (earlier ++ .exchange ⟨.find collection filter options,
      .ok first⟩ :: between) collection).filter filter.accepts := h.true_answers _ _ later hlog
  rw [contentsOf, List.flatMap_append, List.filter_append] at hsecond
  rw [hfirst, hsecond]
  exact List.prefix_append _ _

end AppendOnly

end Ledger

/-- The store in memory is an append-only log: after any calls its collections are the batches of the
insertions that succeeded, in their order, and the answers are true of the batches before them. A
call that fails or is not to insert into a collection leaves it as it is, and a later search begins
with what an earlier one for the same documents has found. -/
theorem memory_appendOnly (visits : List Visit) :
    let ledger := Ledger.empty.run visits
    ledger.AppendOnly visits ∧
      (∀ visit, ∃ entry, ledger.Advances (ledger.step visit) visit entry ∧
        ∀ collection, entry.failed = true ∨ visit.target? ≠ some collection →
          (ledger.step visit).memory.documents collection =
            ledger.memory.documents collection) ∧
      ∀ collection filter options others first second earlier between later,
        ledger.log = earlier ++ .exchange ⟨.find collection filter options, .ok first⟩ :: between ++
            .exchange ⟨.find collection filter others, .ok second⟩ :: later →
          first <+: second := by
  intro ledger
  have happend : ledger.AppendOnly visits := Ledger.AppendOnly.empty.run visits
  refine ⟨happend, fun visit => ?_, ?_⟩
  · obtain ⟨entry, hentry⟩ := ledger.exists_advances visit
    exact ⟨entry, hentry, fun collection hsame => hentry.documents_same hsame⟩
  · intro collection filter options others first second earlier between later hlog
    exact happend.found_prefix hlog

/-- Between two searches a batch is refused, after a document before the refused one got a key, and
another one is inserted: the second search goes on from the first. -/
theorem memory_appendOnly_between :
    let supply : KeySupply := fun _ => ⟨"k"⟩
    let kiwi : Document := ⟨[("name", .string "Kiwi")]⟩
    let fig : Document := ⟨[("_id", .string "own"), ("name", .string "Fig")]⟩
    let insert (docs : List Document) : Visit :=
      .request 0 supply (.insertMany "inventory" docs .unbounded)
    let search : Visit := .request 0 supply (.find "inventory" .empty .unbounded)
    let ledger := Ledger.empty.run [insert [kiwi], search,
      insert [kiwi, ⟨[("_id", .bool true)]⟩], .count "inventory", insert [fig], search]
    (∃ between, ledger.log = [.exchange ⟨.insertMany "inventory" [kiwi] .unbounded, .ok [⟨"k"⟩]⟩] ++
      .exchange ⟨.find "inventory" .empty .unbounded, .ok [kiwi.setKey ⟨"k"⟩]⟩ :: between ++
        .exchange ⟨.find "inventory" .empty .unbounded, .ok [kiwi.setKey ⟨"k"⟩, fig]⟩ :: []) ∧
      [kiwi.setKey ⟨"k"⟩] <+: [kiwi.setKey ⟨"k"⟩, fig] := by
  intro supply kiwi fig insert search ledger
  obtain ⟨between, hlog⟩ : ∃ between, ledger.log =
      [.exchange ⟨.insertMany "inventory" [kiwi] .unbounded, .ok [⟨"k"⟩]⟩] ++
        .exchange ⟨.find "inventory" .empty .unbounded, .ok [kiwi.setKey ⟨"k"⟩]⟩ :: between ++
          .exchange ⟨.find "inventory" .empty .unbounded, .ok [kiwi.setKey ⟨"k"⟩, fig]⟩ :: [] :=
    ⟨[.exchange ⟨.insertMany "inventory" [kiwi, ⟨[("_id", .bool true)]⟩] .unbounded,
        .error (Document.unsupportedKey (.bool true))⟩, .counted "inventory" 1,
      .exchange ⟨.insertMany "inventory" [fig] .unbounded, .ok [⟨"own"⟩]⟩], rfl⟩
  exact ⟨⟨between, hlog⟩, (memory_appendOnly _).2.2 _ _ _ _ _ _ _ _ _ hlog⟩

end Stockroom
