import Mathlib.Data.List.Pairwise
import Mathlib.Data.List.Perm.Basic
import Stockroom.Proofs.Grouping

/-!
# Rows of a group stage

Main statement: the rows stand for the distinct keys of the documents in the order of their first
appearance, every document is summed up in the row of just one key, and a row has the members of the
document form of its stage, each with the sum over the documents of its key.
-/

namespace Stockroom

namespace Document

/-- Members that are set one after the other stand in the order in which they are first set. -/
theorem names_ofEntries (entries : Entries Json) :
    (ofEntries entries).names = entries.names.eraseDups := by
  rw [names, members_ofEntries, Entries.names_putAll_nil]

/-- A member has the value to which it is set last. -/
theorem get?_ofEntries (before : Entries Json) {after : Entries Json} {name : String}
    (h : name ∉ after.names) (value : Json) :
    (ofEntries (before ++ (name, value) :: after)).get? name = some value := by
  have hlater : name ∉ Entries.names after.reverse := by
    rwa [Entries.names, List.map_reverse, List.mem_reverse]
  rw [get?, members_ofEntries, Entries.get?_putAll_nil, List.reverse_append, List.reverse_cons,
    List.append_assoc, List.singleton_append]
  exact Entries.get?_append_cons hlater value _

end Document

namespace GroupStage

variable {stage : GroupStage} {docs : List Document}

/-- Whether a document has a key. -/
def hasKey (stage : GroupStage) (key : Json) (doc : Document) : Bool :=
  decide (key.Same (doc.valueOrNull stage.key))

/-- Whether `keys` are the distinct keys of documents in the order of their first appearance, each
as the first document with it has it. -/
structure FirstKeys (stage : GroupStage) (docs : List Document) (keys : List Json) : Prop where
  first : ∀ key ∈ keys, ∃ doc, docs.find? (stage.hasKey key) = some doc ∧
    doc.valueOrNull stage.key = key
  cover : ∀ doc ∈ docs, ∃ key ∈ keys, key.Same (doc.valueOrNull stage.key)
  distinct : keys.Pairwise fun a b => ¬ a.Same b
  ordered : keys.Pairwise fun a b =>
    docs.findIdx (stage.hasKey a) < docs.findIdx (stage.hasKey b)

namespace FirstKeys

variable {keys : List Json} {doc : Document}

/-- Further documents do not change where a key appears first. -/
theorem findIdx_concat (h : FirstKeys stage docs keys) (doc : Document) {key : Json}
    (hkey : key ∈ keys) :
    (docs ++ [doc]).findIdx (stage.hasKey key) = docs.findIdx (stage.hasKey key) ∧
      docs.findIdx (stage.hasKey key) < docs.length := by
  obtain ⟨found, hfound, -⟩ := h.first key hkey
  have hlt : docs.findIdx (stage.hasKey key) < docs.length :=
    List.findIdx_lt_length.mpr ⟨found, List.mem_of_find?_eq_some hfound, List.find?_some hfound⟩
  rw [List.findIdx_append, if_pos hlt]
  exact ⟨rfl, hlt⟩

/-- Further documents do not change the order in which keys appear first. -/
theorem ordered_concat (h : FirstKeys stage docs keys) : keys.Pairwise fun a b =>
    (docs ++ [doc]).findIdx (stage.hasKey a) < (docs ++ [doc]).findIdx (stage.hasKey b) := by
  refine h.ordered.imp_of_mem fun ha hb hlt => ?_
  rw [(h.findIdx_concat doc ha).1, (h.findIdx_concat doc hb).1]
  exact hlt

/-- Further documents do not change the first document with a key. -/
theorem first_concat (h : FirstKeys stage docs keys) {key : Json} (hkey : key ∈ keys) :
    ∃ first, (docs ++ [doc]).find? (stage.hasKey key) = some first ∧
      first.valueOrNull stage.key = key := by
  obtain ⟨first, hfirst, hkeyOf⟩ := h.first key hkey
  refine ⟨first, ?_, hkeyOf⟩
  rw [List.find?_append, hfirst, Option.some_or]

/-- A document whose key appeared before brings in no key. -/
theorem concat_of_old (h : FirstKeys stage docs keys)
    (hold : ∃ key ∈ keys, key.Same (doc.valueOrNull stage.key)) :
    FirstKeys stage (docs ++ [doc]) keys where
  first _ hkey := h.first_concat hkey
  cover := List.forall_mem_append.mpr ⟨h.cover, List.forall_mem_singleton.mpr hold⟩
  distinct := h.distinct
  ordered := h.ordered_concat

/-- A document whose key did not appear before brings in its key. -/
theorem concat_of_new (h : FirstKeys stage docs keys)
    (hnew : ∀ key ∈ keys, ¬ key.Same (doc.valueOrNull stage.key)) :
    FirstKeys stage (docs ++ [doc]) (keys ++ [doc.valueOrNull stage.key]) := by
  have hself : stage.hasKey (doc.valueOrNull stage.key) doc = true := decide_eq_true (.refl _)
  -- An earlier document with the key would have brought it in.
  have hnone : ∀ earlier ∈ docs, ¬ stage.hasKey (doc.valueOrNull stage.key) earlier = true := by
    intro earlier hearlier hsame
    obtain ⟨key, hkey, hkeyOf⟩ := h.cover earlier hearlier
    exact hnew key hkey (hkeyOf.trans (of_decide_eq_true hsame).symm)
  have hlast :
      (docs ++ [doc]).findIdx (stage.hasKey (doc.valueOrNull stage.key)) = docs.length := by
    have habsent : docs.findIdx (stage.hasKey (doc.valueOrNull stage.key)) = docs.length :=
      List.findIdx_eq_length_of_false (by simpa using hnone)
    rw [List.findIdx_append, habsent, if_neg (Nat.lt_irrefl _), List.findIdx_cons, hself]
    exact Nat.zero_add _
  refine ⟨?_, ?_, ?_, ?_⟩
  · refine List.forall_mem_append.mpr ⟨fun key hkey => h.first_concat hkey, ?_⟩
    refine List.forall_mem_singleton.mpr ⟨doc, ?_, rfl⟩
    rw [List.find?_append, List.find?_eq_none.mpr hnone, Option.none_or, List.find?_cons, hself]
  · intro other hother
    rcases List.mem_append.mp hother with hmem | hmem
    · obtain ⟨key, hkey, hsame⟩ := h.cover other hmem
      exact ⟨key, List.mem_append_left _ hkey, hsame⟩
    · obtain rfl := List.mem_singleton.mp hmem
      exact ⟨other.valueOrNull stage.key, List.mem_append_right _ List.mem_cons_self, .refl _⟩
  · refine List.pairwise_append.mpr ⟨h.distinct, List.pairwise_singleton _ _, ?_⟩
    intro key hkey other hother
    rw [List.mem_singleton.mp hother]
    exact hnew key hkey
  · refine List.pairwise_append.mpr ⟨h.ordered_concat, List.pairwise_singleton _ _, ?_⟩
    intro key hkey other hother
    obtain ⟨hsame, hlt⟩ := h.findIdx_concat doc hkey
    rw [List.mem_singleton.mp hother, hlast, hsame]
    exact hlt

/-- A document has just one of the first keys. -/
theorem existsUnique (h : FirstKeys stage docs keys) (hdoc : doc ∈ docs) :
    ∃! key, key ∈ keys ∧ key.Same (doc.valueOrNull stage.key) := by
  obtain ⟨key, hkey, hsame⟩ := h.cover doc hdoc
  refine ⟨key, ⟨hkey, hsame⟩, ?_⟩
  rintro other ⟨hother, hsame'⟩
  by_contra hne
  have hsymm : Std.Symm fun a b : Json => ¬ a.Same b := ⟨fun a b hnot hflip => hnot hflip.symm⟩
  exact h.distinct.forall hother hkey hne (hsame'.trans hsame.symm)

end FirstKeys

/-- The distinct keys are the first keys. -/
theorem firstKeys_distinct (stage : GroupStage) (docs : List Document) :
    FirstKeys stage docs (Json.distinct (docs.map (·.valueOrNull stage.key))) := by
  induction docs using List.reverseRecOn with
  | nil => exact ⟨List.forall_mem_nil _, List.forall_mem_nil _, .nil, .nil⟩
  | append_singleton docs doc ih =>
    rw [List.map_append, List.map_singleton, Json.distinct_concat, Json.addDistinct]
    split
    case isTrue hold => exact ih.concat_of_old hold
    case isFalse hnew => exact ih.concat_of_new fun key hkey hsame => hnew ⟨key, hkey, hsame⟩

/-- The documents of distinct keys are all documents, if each document has one of the keys. -/
theorem perm_flatMap_withKey {keys : List Json} (hdistinct : keys.Pairwise fun a b => ¬ a.Same b)
    (hcover : ∀ doc ∈ docs, ∃ key ∈ keys, key.Same (doc.valueOrNull stage.key)) :
    (keys.flatMap fun key => stage.withKey key docs).Perm docs := by
  induction keys generalizing docs with
  | nil =>
    cases docs with
    | nil => exact .nil
    | cons doc rest =>
      obtain ⟨key, hkey, -⟩ := hcover doc List.mem_cons_self
      cases hkey
  | cons key rest ih =>
    obtain ⟨hhead, hrest⟩ := List.pairwise_cons.mp hdistinct
    let others := docs.filter fun doc => !stage.hasKey key doc
    have hcover' : ∀ doc ∈ others, ∃ other ∈ rest, other.Same (doc.valueOrNull stage.key) := by
      intro doc hdoc
      obtain ⟨hmem, hother⟩ := List.mem_filter.mp hdoc
      obtain ⟨found, hfound, hsame⟩ := hcover doc hmem
      rcases List.mem_cons.mp hfound with rfl | hfound
      · simp [hasKey, hsame] at hother
      · exact ⟨found, hfound, hsame⟩
    -- Of the documents with another key none has this one.
    have hothers : ∀ other ∈ rest, stage.withKey other docs = stage.withKey other others := by
      intro other hother
      rw [withKey, withKey, List.filter_filter]
      refine List.filter_congr fun doc _ => ?_
      by_cases hsame : other.Same (doc.valueOrNull stage.key)
      · have hnot : ¬ key.Same (doc.valueOrNull stage.key) :=
          fun hkey => hhead other hother (hkey.trans hsame.symm)
        simp [hasKey, hsame, hnot]
      · simp [hsame]
    have hflat : (rest.flatMap fun other => stage.withKey other docs) =
        rest.flatMap fun other => stage.withKey other others := List.flatMap_congr hothers
    rw [List.flatMap_cons, hflat]
    exact ((ih hrest hcover').append_left _).trans (List.filter_append_perm (stage.hasKey key) docs)

/-- Whether a sum is the last one of a stage with its output. -/
def IsLast (stage : GroupStage) (sum : SumField) : Prop :=
  ∃ before after, stage.sums = before ++ sum :: after ∧
    ∀ later ∈ after, later.output ≠ sum.output

/-- Whether a row sums up documents with a key. It has the members of the document form of its stage
in their order: the key, unless a sum takes its place, and the last sum of each output, added up
from zero over the numbers under its source, and `null` if that is not finite. -/
structure SumsUp (stage : GroupStage) (form : Entries Json) (key : Json) (members : List Document)
    (row : Document) : Prop where
  names : row.names = form.names
  key : (∀ sum ∈ stage.sums, sum.output ≠ keyOutput) → row.get? keyOutput = some key ∧
    form.get? keyOutput = some (reference stage.key)
  sum : ∀ sum, stage.IsLast sum →
    row.get? sum.output = some (.ofDouble (.sum (members.filterMap (·.number? sum.source)))) ∧
      form.get? sum.output = some (.object [("$sum", reference sum.source)])

/-- The members of a row or of the document form of a stage: one for the key, one for each sum. -/
def members (stage : GroupStage) (key : Json) (value : SumField → Json) : Document :=
  .ofEntries ((keyOutput, key) :: stage.sums.map fun sum => (sum.output, value sum))

/-- The members have the names of the outputs, whatever their values. -/
theorem names_members (stage : GroupStage) (key : Json) (value : SumField → Json) :
    (stage.members key value).names = (keyOutput :: stage.sums.map SumField.output).eraseDups := by
  rw [members, Document.names_ofEntries, Entries.names, List.map_cons, List.map_map]
  rfl

/-- The key is a member unless a sum takes its place. -/
theorem get?_members_key (h : ∀ sum ∈ stage.sums, sum.output ≠ keyOutput) (key : Json)
    (value : SumField → Json) : (stage.members key value).get? keyOutput = some key := by
  have hnew : keyOutput ∉ Entries.names (stage.sums.map fun sum => (sum.output, value sum)) := by
    simpa [Entries.names] using h
  exact Document.get?_ofEntries [] hnew key

/-- The last sum of an output is a member. -/
theorem get?_members_of_isLast {sum : SumField} (h : stage.IsLast sum) (key : Json)
    (value : SumField → Json) :
    (stage.members key value).get? sum.output = some (value sum) := by
  obtain ⟨before, after, hsums, hlater⟩ := h
  have hnew : sum.output ∉ Entries.names (after.map fun sum => (sum.output, value sum)) := by
    simpa [Entries.names] using hlater
  have hsplit : stage.members key value = .ofEntries
      (((keyOutput, key) :: before.map fun sum => (sum.output, value sum)) ++
        (sum.output, value sum) :: after.map fun sum => (sum.output, value sum)) := by
    rw [members, hsums, List.map_append, List.map_cons, List.cons_append]
  rw [hsplit]
  exact Document.get?_ofEntries _ hnew _

/-- The row of a key has its sums as members. -/
theorem row_groupOf (stage : GroupStage) (docs : List Document) (key : Json) :
    stage.row (stage.groupOf docs key) =
      stage.members key fun sum => .ofDouble (total (stage.withKey key docs) sum) := by
  rw [row, groupOf, members, List.zipWith_map_right, List.zipWith_self]

/-- The row of a key sums up the documents with the key. -/
theorem sumsUp_row (stage : GroupStage) (docs : List Document) (key : Json) :
    SumsUp stage stage.outputs.members key (stage.withKey key docs)
      (stage.row (stage.groupOf docs key)) := by
  have hform : stage.outputs = stage.members (reference stage.key) fun sum =>
    .object [("$sum", reference sum.source)] := rfl
  rw [row_groupOf]
  refine ⟨?_, fun hkey => ⟨?_, ?_⟩, fun sum hlast => ⟨?_, ?_⟩⟩
  · have hnames := names_members stage (reference stage.key) fun sum =>
      .object [("$sum", reference sum.source)]
    rw [names_members]
    exact hnames.symm
  · exact get?_members_key hkey _ _
  · exact get?_members_key hkey _ _
  · exact get?_members_of_isLast hlast _ _
  · exact get?_members_of_isLast hlast _ _

/-- A group stage has one row for each distinct key, in the order in which the keys first appear.
All documents together are those of the keys, each document has just one of the keys, and the row of
a key sums up the documents with it. -/
theorem groupRows_exact (stage : GroupStage) (docs : List Document) :
    ∃ keys form, FirstKeys stage docs keys ∧
      (keys.flatMap fun key => stage.withKey key docs).Perm docs ∧
      (∀ doc ∈ docs, ∃! key, key ∈ keys ∧ key.Same (doc.valueOrNull stage.key)) ∧
      stage.toJson = .object [("$group", .object form)] ∧
      List.Forall₂ (fun key row => SumsUp stage form key (stage.withKey key docs) row) keys
        (stage.apply docs) := by
  have hkeys := firstKeys_distinct stage docs
  refine ⟨_, stage.outputs.members, hkeys, perm_flatMap_withKey hkeys.distinct hkeys.cover,
    fun doc hdoc => hkeys.existsUnique hdoc, rfl, ?_⟩
  rw [apply, groups_eq, List.map_map, List.forall₂_map_right_iff, List.forall₂_same]
  exact fun key _ => sumsUp_row stage docs key

/-- The two zeros are one key, as are `null` and an absent member; a sum named like the key takes
its place, and of two sums with one name the later counts. -/
theorem groupRows_exact_colliding :
    let stage : GroupStage := ⟨"k", [⟨"t", "a"⟩, ⟨"_id", "b"⟩, ⟨"t", "b"⟩]⟩
    let zero (negative : Bool) : Json := .ofDouble (.ofRatio negative 0 1)
    let docs : List Document := [⟨[("k", zero true), ("b", .ofInt64 1)]⟩, ⟨[("b", .ofInt64 4)]⟩,
      ⟨[("k", zero false), ("a", .ofInt64 8), ("b", .string "2")]⟩, ⟨[("k", .null)]⟩]
    let rows : List Document := [⟨[("_id", .ofDouble (.ofInt 1)), ("t", .ofDouble (.ofInt 1))]⟩,
      ⟨[("_id", .ofDouble (.ofInt 4)), ("t", .ofDouble (.ofInt 4))]⟩]
    docs.map stage.keyOf = [zero true, .null, zero false, .null] ∧
      docs.map (addend? ⟨"t", "b"⟩) = [some (.ofInt 1), some (.ofInt 4), none, none] ∧
      stage.apply docs = rows ∧
      ∃ keys form, FirstKeys stage docs keys ∧ stage.toJson = .object [("$group", .object form)] ∧
        List.Forall₂ (fun key row => SumsUp stage form key (stage.withKey key docs) row) keys
          rows := by
  intro stage zero docs rows
  have hrows : stage.apply docs = rows := by decide +kernel
  obtain ⟨keys, form, hkeys, -, -, hform, hsums⟩ := groupRows_exact stage docs
  exact ⟨by decide +kernel, by decide +kernel, hrows, keys, form, hkeys, hform, hrows ▸ hsums⟩

end GroupStage

end Stockroom
