import Mathlib.Data.List.Induction
import Mathlib.Data.List.Nodup
import Stockroom.Query.Matching

/-!
# Clauses of a filter

A filter is looked at field by field. Putting an entry keeps the names of a list distinct, and a
list with distinct names is settled by what it holds under each name. Entries that are put one after
the other stand in the order of the first ones under their names, with the values of the last ones.
So whether a filter built clause by clause accepts a document depends only on the condition that it
has on each field.
-/

namespace Stockroom

/-- One more item is a further distinct one unless it is there. -/
theorem eraseDups_concat {α : Type} [DecidableEq α] (items : List α) (item : α) :
    (items ++ [item]).eraseDups =
      if item ∈ items then items.eraseDups else items.eraseDups ++ [item] := by
  rw [List.eraseDups_append]
  split
  case isTrue h => simp [List.removeAll, h]
  case isFalse h =>
    have hnew : [item].removeAll items = [item] := by simp [List.removeAll, h]
    rw [hnew]
    rfl

namespace Entries

variable {α : Type}

/-- Putting an entry adds its name at the end or leaves the names as they are. -/
theorem names_put (name : String) (value : α) (entries : Entries α) :
    (put name value entries).names =
      if name ∈ entries.names then entries.names else entries.names ++ [name] := by
  induction entries with
  | nil => rfl
  | cons entry rest ih =>
    obtain ⟨n, v⟩ := entry
    rw [put]
    by_cases h : n = name
    · subst h
      simp [names]
    · rw [if_neg h]
      simp only [names, List.map_cons, List.mem_cons] at ih ⊢
      rw [ih]
      by_cases hmem : name ∈ rest.map Prod.fst
      · simp [hmem]
      · simp [hmem, Ne.symm h]

/-- Putting an entry keeps the names distinct. -/
theorem nodup_names_put {entries : Entries α} (h : entries.names.Nodup) (name : String)
    (value : α) : (put name value entries).names.Nodup := by
  rw [names_put]
  split
  case isTrue => exact h
  case isFalse hmem =>
    refine List.nodup_append.mpr ⟨h, List.pairwise_singleton _ _, ?_⟩
    intro a ha b hb
    rw [List.mem_singleton.mp hb]
    rintro rfl
    exact hmem ha

/-- A value that is found stands in the list. -/
theorem mem_of_get?_eq_some {entries : Entries α} {name : String} {value : α}
    (h : entries.get? name = some value) : (name, value) ∈ entries := by
  induction entries with
  | nil => cases h
  | cons entry rest ih =>
    obtain ⟨n, v⟩ := entry
    rw [get?] at h
    split at h
    case isTrue hn =>
      obtain rfl := Option.some.inj h
      exact hn ▸ List.mem_cons_self
    case isFalse => exact List.mem_cons_of_mem _ (ih h)

/-- Among distinct names every entry is found under its name. -/
theorem get?_eq_some_of_mem {entries : Entries α} (hnodup : entries.names.Nodup) {name : String}
    {value : α} (h : (name, value) ∈ entries) : entries.get? name = some value := by
  induction entries with
  | nil => cases h
  | cons entry rest ih =>
    obtain ⟨n, v⟩ := entry
    obtain ⟨hn, hrest⟩ := List.nodup_cons.mp hnodup
    rw [get?]
    rcases List.mem_cons.mp h with heq | hmem
    · obtain ⟨rfl, rfl⟩ := Prod.mk.inj heq
      exact if_pos rfl
    · have hne : n ≠ name := by
        rintro rfl
        exact hn (List.mem_map.mpr ⟨(n, value), hmem, rfl⟩)
      rw [if_neg hne, ih hrest hmem]

/-- Putting the value that is already there changes nothing. -/
theorem put_eq_self {entries : Entries α} {name : String} {value : α}
    (h : entries.get? name = some value) : put name value entries = entries := by
  induction entries with
  | nil => cases h
  | cons entry rest ih =>
    obtain ⟨n, v⟩ := entry
    rw [get?] at h
    rw [put]
    split at h
    case isTrue hn => rw [if_pos hn, Option.some.inj h]
    case isFalse hn => rw [if_neg hn, ih h]

/-- Nothing is found just under the names that are not there. -/
theorem get?_eq_none_iff {entries : Entries α} {name : String} :
    entries.get? name = none ↔ name ∉ entries.names := by
  induction entries with
  | nil => exact iff_of_true rfl List.not_mem_nil
  | cons entry rest ih =>
    obtain ⟨n, v⟩ := entry
    by_cases hn : n = name
    · simp [get?, names, hn]
    · rw [get?, if_neg hn, ih]
      simp [names, Ne.symm hn]

/-- A name that is not there yet is put last. -/
theorem put_of_not_mem {entries : Entries α} {name : String} (h : name ∉ entries.names)
    (value : α) : put name value entries = entries ++ [(name, value)] := by
  induction entries with
  | nil => rfl
  | cons entry rest ih =>
    obtain ⟨n, v⟩ := entry
    obtain ⟨hne, hrest⟩ : name ≠ n ∧ name ∉ names rest := by
      simpa [names] using h
    rw [put, if_neg (Ne.symm hne), ih hrest, List.cons_append]

/-- A value that is found has entries with other names before it. -/
theorem exists_split_of_get? {entries : Entries α} {name : String} {value : α}
    (h : entries.get? name = some value) :
    ∃ before after, entries = before ++ (name, value) :: after ∧ name ∉ before.names := by
  induction entries with
  | nil => cases h
  | cons entry rest ih =>
    obtain ⟨n, v⟩ := entry
    rw [get?] at h
    split at h
    case isTrue hn =>
      obtain rfl := Option.some.inj h
      exact ⟨[], rest, by rw [hn, List.nil_append], List.not_mem_nil⟩
    case isFalse hn =>
      obtain ⟨before, after, rfl, hbefore⟩ := ih h
      refine ⟨(n, v) :: before, after, rfl, ?_⟩
      intro hmem
      rcases List.mem_cons.mp hmem with heq | hmem
      · exact hn heq.symm
      · exact hbefore hmem

/-- Behind entries with other names a value is put in place of the old one. -/
theorem put_append_cons {before : Entries α} {name : String} (h : name ∉ before.names)
    (old value : α) (after : Entries α) :
    put name value (before ++ (name, old) :: after) = before ++ (name, value) :: after := by
  induction before with
  | nil => exact if_pos rfl
  | cons entry rest ih =>
    obtain ⟨n, v⟩ := entry
    obtain ⟨hne, hrest⟩ : name ≠ n ∧ name ∉ names rest := by
      simpa [names] using h
    rw [List.cons_append, put, if_neg (Ne.symm hne), ih hrest, List.cons_append]

/-- Behind entries with other names an entry is found. -/
theorem get?_append_cons {before : Entries α} {name : String} (h : name ∉ before.names)
    (value : α) (after : Entries α) :
    get? name (before ++ (name, value) :: after) = some value := by
  induction before with
  | nil => exact if_pos rfl
  | cons entry rest ih =>
    obtain ⟨n, v⟩ := entry
    obtain ⟨hne, hrest⟩ : name ≠ n ∧ name ∉ names rest := by
      simpa [names] using h
    rw [List.cons_append, get?, if_neg (Ne.symm hne), ih hrest]

/-- The names of lists in a row. -/
theorem names_append (entries others : Entries α) :
    names (entries ++ others) = entries.names ++ others.names :=
  List.map_append

/-- Among distinct names the one at which a list is cut stands on neither side. -/
theorem not_mem_of_nodup_names {before after : Entries α} {name : String} {value : α}
    (h : (names (before ++ (name, value) :: after)).Nodup) :
    name ∉ before.names ∧ name ∉ after.names := by
  have hnames : names (before ++ (name, value) :: after) = before.names ++ name :: after.names :=
    names_append ..
  rw [hnames, List.nodup_middle] at h
  exact not_or.mp (mt List.mem_append.mpr (List.nodup_cons.mp h).1)

/-! ### Entries that are put one after the other -/

/-- Puts the entries of another list one after the other. -/
def putAll (entries others : Entries α) : Entries α :=
  others.foldl (fun entries (name, value) => put name value entries) entries

/-- The entry that is put last. -/
theorem putAll_concat (entries others : Entries α) (name : String) (value : α) :
    entries.putAll (others ++ [(name, value)]) = put name value (entries.putAll others) := by
  rw [putAll, List.foldl_append]
  rfl

/-- The names stand in the order of their first occurrences. -/
theorem names_putAll_nil (others : Entries α) :
    (putAll [] others).names = others.names.eraseDups := by
  induction others using List.reverseRecOn with
  | nil => rfl
  | append_singleton others entry ih =>
    obtain ⟨name, value⟩ := entry
    have hnames : names (others ++ [(name, value)]) = names others ++ [name] := names_append ..
    rw [putAll_concat, names_put, ih, hnames, eraseDups_concat,
      if_congr List.mem_eraseDups rfl rfl]

/-- Of the values under a name the last one is found. -/
theorem get?_putAll_nil (name : String) (others : Entries α) :
    get? name (putAll [] others) = get? name others.reverse := by
  induction others using List.reverseRecOn with
  | nil => rfl
  | append_singleton others entry ih =>
    obtain ⟨last, value⟩ := entry
    rw [putAll_concat, List.reverse_concat, get?]
    split
    case isTrue h => rw [h, get?_put_self]
    case isFalse h => rw [get?_put_of_ne (Ne.symm h), ih]

/-- Entries with distinct names stay as they are. -/
theorem putAll_nil_eq_self {others : Entries α} (h : others.names.Nodup) :
    putAll [] others = others := by
  induction others using List.reverseRecOn with
  | nil => rfl
  | append_singleton others entry ih =>
    obtain ⟨name, value⟩ := entry
    have hnew : name ∉ names others := (not_mem_of_nodup_names h).1
    rw [names_append] at h
    rw [putAll_concat, ih h.of_append_left, put_of_not_mem hnew]

end Entries

/-- The members of a document that are set one after the other. -/
theorem Document.members_ofEntries (entries : Entries Json) :
    (Document.ofEntries entries).members = Entries.putAll [] entries := by
  induction entries using List.reverseRecOn with
  | nil => rfl
  | append_singleton entries entry ih =>
    obtain ⟨name, value⟩ := entry
    rw [Entries.putAll_concat, ← ih, ofEntries, List.foldl_append]
    rfl

namespace Filter

/-- No field has two clauses. -/
def Distinct (filter : Filter) : Prop :=
  filter.clauses.names.Nodup

/-- The filter without clauses names no field twice. -/
theorem distinct_empty : empty.Distinct :=
  List.nodup_nil

/-- A condition that is inserted takes the place of an earlier one on its field. -/
theorem Distinct.insert {filter : Filter} (h : filter.Distinct) (field : String)
    (condition : Condition) : (filter.insert field condition).Distinct :=
  Entries.nodup_names_put h field condition

/-- A filter accepts a document if the condition on each field accepts the value there. -/
theorem Distinct.accepts_iff {filter : Filter} (h : filter.Distinct) (doc : Document) :
    filter.accepts doc = true ↔ ∀ field condition, filter.get? field = some condition →
      condition.accepts ((doc.get? field).getD .null) = true := by
  simp only [accepts, List.all_eq_true]
  constructor
  · intro hall field condition hget
    exact hall (field, condition) (Entries.mem_of_get?_eq_some hget)
  · intro hall clause hmem
    exact hall clause.1 clause.2 (Entries.get?_eq_some_of_mem h hmem)

end Filter

end Stockroom
