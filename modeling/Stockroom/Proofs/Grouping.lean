import Stockroom.Proofs.Clauses
import Stockroom.Proofs.DoubleSums
import Stockroom.Query.Grouping

/-!
# Groups of documents

Groups are built up one document at a time. Main invariant: their keys are the distinct keys of the
documents so far, in the order of their first occurrence, and the totals of a group are the sums
over all documents so far that have its key.
-/

namespace Stockroom

namespace Json

/-- The values with one more, unless one of them is the same. -/
def addDistinct (values : List Json) (value : Json) : List Json :=
  if ∃ kept ∈ values, kept.Same value then values else values ++ [value]

/-- The values without those that are the same as an earlier one. -/
def distinct (values : List Json) : List Json :=
  values.foldl addDistinct []

/-- The distinct values after one more value. -/
theorem distinct_concat (values : List Json) (value : Json) :
    distinct (values ++ [value]) = addDistinct (distinct values) value := by
  rw [distinct, List.foldl_append]
  rfl

/-- No two distinct values are the same. -/
theorem pairwise_distinct (values : List Json) :
    (distinct values).Pairwise fun a b => ¬ a.Same b := by
  induction values using List.reverseRecOn with
  | nil => exact List.Pairwise.nil
  | append_singleton values value ih =>
    rw [distinct_concat, addDistinct]
    split
    case isTrue => exact ih
    case isFalse hnew =>
      refine List.pairwise_append.mpr ⟨ih, List.pairwise_singleton _ _, ?_⟩
      intro kept hkept other hother hsame
      obtain rfl := List.mem_singleton.mp hother
      exact hnew ⟨kept, hkept, hsame⟩

/-- Each value is the same as a distinct one. -/
theorem exists_mem_distinct {values : List Json} {value : Json} (h : value ∈ values) :
    ∃ kept ∈ distinct values, kept.Same value := by
  induction values using List.reverseRecOn with
  | nil => cases h
  | append_singleton values last ih =>
    rw [distinct_concat, addDistinct]
    split
    case isTrue hold =>
      rcases List.mem_append.mp h with hmem | hmem
      · exact ih hmem
      · obtain rfl := List.mem_singleton.mp hmem
        exact hold
    case isFalse =>
      rcases List.mem_append.mp h with hmem | hmem
      · obtain ⟨kept, hkept, hsame⟩ := ih hmem
        exact ⟨kept, List.mem_append_left _ hkept, hsame⟩
      · obtain rfl := List.mem_singleton.mp hmem
        exact ⟨value, List.mem_append_right _ List.mem_cons_self, .refl value⟩

/-- Texts are the same as JSON values if they are equal. -/
theorem same_string_iff {s t : String} : (string s).Same (string t) ↔ s = t := by
  simp [Same, canonical]

/-- The distinct ones among texts are each text once. -/
theorem distinct_map_string (texts : List String) :
    distinct (texts.map string) = texts.eraseDups.map string := by
  induction texts using List.reverseRecOn with
  | nil => rfl
  | append_singleton texts last ih =>
    have hmem : (∃ kept ∈ texts.eraseDups.map string, kept.Same (string last)) ↔ last ∈ texts := by
      simp [same_string_iff]
    rw [List.map_append, List.map_singleton, distinct_concat, ih, addDistinct,
      if_congr hmem rfl rfl, eraseDups_concat]
    split
    case isTrue => rfl
    case isFalse =>
      rw [List.map_append]
      rfl

end Json

namespace Document

/-- The value under a name, `null` if there is none. -/
def valueOrNull (doc : Document) (name : String) : Json :=
  (doc.get? name).getD .null

/-- The number under a name as a double. -/
def number? (doc : Document) (name : String) : Option Double :=
  match doc.get? name with
  | some (.number n) => some n.toDouble
  | _ => none

end Document

namespace GroupStage

/-- A document is grouped by the value of a member. -/
theorem keyOf_eq (stage : GroupStage) (doc : Document) :
    stage.keyOf doc = doc.valueOrNull stage.key := rfl

/-- A document adds the number under a member to a sum. -/
theorem addend?_eq (sum : SumField) (doc : Document) :
    addend? sum doc = doc.number? sum.source := by
  rw [addend?, Document.number?]
  cases doc.get? sum.source with
  | none => rfl
  | some value => cases value <;> rfl

/-- The documents that have a key. -/
def withKey (stage : GroupStage) (key : Json) (docs : List Document) : List Document :=
  docs.filter fun doc => decide (key.Same (doc.valueOrNull stage.key))

/-- The sum over documents: that of the numbers under its member. -/
def total (docs : List Document) (sum : SumField) : Double :=
  Double.sum (docs.filterMap (·.number? sum.source))

/-- The group of the documents that have a key. -/
def groupOf (stage : GroupStage) (docs : List Document) (key : Json) : Group :=
  ⟨key, stage.sums.map (total (stage.withKey key docs))⟩

/-- A sum over one more document. -/
theorem total_concat (docs : List Document) (doc : Document) (sum : SumField) :
    total (docs ++ [doc]) sum = addTo doc (total docs sum) sum := by
  rw [total, List.filterMap_append, addTo, addend?_eq]
  cases haddend : doc.number? sum.source with
  | none => simp [haddend, total]
  | some x =>
    simp only [List.filterMap_cons, haddend, List.filterMap_nil]
    exact Double.sum_concat _ x

/-- A further document with the key extends the group. -/
theorem groupOf_concat_of_same {stage : GroupStage} {key : Json} {doc : Document}
    (h : key.Same (doc.valueOrNull stage.key)) (docs : List Document) :
    stage.groupOf (docs ++ [doc]) key = stage.extend doc (stage.groupOf docs key) := by
  have hdocs : stage.withKey key (docs ++ [doc]) = stage.withKey key docs ++ [doc] := by
    simp [withKey, h]
  rw [groupOf, extend, hdocs, groupOf, List.zipWith_map_left, List.zipWith_self]
  exact congrArg (Group.mk key) (List.map_congr_left fun sum _ => total_concat _ doc sum)

/-- A further document with another key does not change the group. -/
theorem groupOf_concat_of_not_same {stage : GroupStage} {key : Json} {doc : Document}
    (h : ¬ key.Same (doc.valueOrNull stage.key)) (docs : List Document) :
    stage.groupOf (docs ++ [doc]) key = stage.groupOf docs key := by
  simp [groupOf, withKey, h]

/-- A step of the invariant: a document is taken up by the group of its key. -/
theorem addDocument_map_groupOf {stage : GroupStage} {docs : List Document} {doc : Document}
    {keys : List Json} (hdistinct : keys.Pairwise fun a b => ¬ a.Same b)
    (hnew : (∀ key ∈ keys, ¬ key.Same (doc.valueOrNull stage.key)) →
      stage.withKey (doc.valueOrNull stage.key) docs = []) :
    stage.addDocument doc (keys.map (stage.groupOf docs)) =
      (Json.addDistinct keys (doc.valueOrNull stage.key)).map (stage.groupOf (docs ++ [doc])) := by
  induction keys with
  | nil =>
    have hempty : stage.groupOf docs (doc.valueOrNull stage.key) =
        stage.emptyGroup (doc.valueOrNull stage.key) := by
      rw [groupOf, hnew (List.forall_mem_nil _)]
      rfl
    have hgroup := groupOf_concat_of_same (.refl (doc.valueOrNull stage.key)) docs
    rw [hempty] at hgroup
    simp [addDocument, Json.addDistinct, keyOf_eq, hgroup]
  | cons key rest ih =>
    obtain ⟨hhead, hrest⟩ := List.pairwise_cons.mp hdistinct
    rw [List.map_cons, addDocument, keyOf_eq]
    by_cases hsame : key.Same (doc.valueOrNull stage.key)
    · have hothers : rest.map (stage.groupOf (docs ++ [doc])) = rest.map (stage.groupOf docs) := by
        refine List.map_congr_left fun other hmem => groupOf_concat_of_not_same (fun h => ?_) docs
        exact hhead other hmem (hsame.trans h.symm)
      have hkeys : Json.addDistinct (key :: rest) (doc.valueOrNull stage.key) = key :: rest :=
        if_pos ⟨key, List.mem_cons_self, hsame⟩
      rw [hkeys, List.map_cons, hothers, groupOf_concat_of_same hsame]
      exact if_pos hsame
    · have hkeys : Json.addDistinct (key :: rest) (doc.valueOrNull stage.key) =
          key :: Json.addDistinct rest (doc.valueOrNull stage.key) := by
        simp only [Json.addDistinct, List.mem_cons, exists_eq_or_imp, hsame, false_or]
        split <;> rfl
      have hstep := ih hrest fun hall => hnew (List.forall_mem_cons.mpr ⟨hsame, hall⟩)
      rw [hkeys, List.map_cons, groupOf_concat_of_not_same hsame, ← hstep]
      exact if_neg hsame

/-- The groups are those of the distinct keys of the documents. -/
theorem groups_eq (stage : GroupStage) (docs : List Document) :
    stage.groups docs =
      (Json.distinct (docs.map (·.valueOrNull stage.key))).map (stage.groupOf docs) := by
  induction docs using List.reverseRecOn with
  | nil => rfl
  | append_singleton docs doc ih =>
    have hrun : stage.groups (docs ++ [doc]) = stage.addDocument doc (stage.groups docs) := by
      rw [groups, List.foldl_append]
      rfl
    rw [hrun, ih, List.map_append, List.map_singleton, Json.distinct_concat]
    refine addDocument_map_groupOf (Json.pairwise_distinct _) fun hall => ?_
    -- An earlier document with the key would have brought in a key that is the same.
    rw [withKey, List.filter_eq_nil_iff]
    intro earlier hmem hsame
    obtain ⟨key, hkey, hearlier⟩ :=
      Json.exists_mem_distinct (List.mem_map_of_mem (f := stage.keyOf) hmem)
    exact hall key hkey (hearlier.trans (of_decide_eq_true hsame).symm)

end GroupStage

end Stockroom
