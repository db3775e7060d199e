import Mathlib.Algebra.Order.Field.Basic
import Stockroom.Proofs.ExactComparison
import Stockroom.Proofs.GroupRows
import Stockroom.Proofs.SameValues
import Stockroom.Proofs.Searching

/-!
# Searching for the key of a group

Grouping tells an integer from a double, and an equality compares numbers whatever their form. Main
statement: a search for the key of a row finds all documents of the row, and besides them at most
documents with numbers of another form. A text is found alone, and a number that its double tells
from the others is found in every form by its exact value.
-/

namespace Stockroom

namespace Json

/-- The exact value of a number, nothing for any other value. -/
def exactValue? : Json → Option ℚ
  | number n => some n.value
  | _ => none

/-- Whether a value is a text or a number. -/
def IsTextOrNumber : Json → Prop
  | string _ => True
  | number _ => True
  | _ => False

/-- Whether two values are not numbers of different forms: if both are numbers, then both are signed
words or both are doubles. -/
def OneForm : Json → Json → Prop
  | number m, number n =>
    (∃ i j, m = .ofInt64 i ∧ n = .ofInt64 j) ∨ (∃ x y, m = .float x ∧ n = .float y)
  | _, _ => True

namespace Number

/-- Numbers are equal as doubles if their exact values are rounded to the same. -/
theorem equals_toDouble_iff (m n : Number) : m.toDouble.equals n.toDouble = true ↔
    Double.nearest m.units = Double.nearest n.units := by
  rw [Double.equals, compare?_toDouble_toDouble, beq_iff_eq, Option.some.injEq, compare_eq_iff_eq]

/-- Numbers have one exact value if they have the same units. -/
theorem value_eq_value_iff {m n : Number} : m.value = n.value ↔ m.units = n.units := by
  have hone : (Double.one : ℚ) ≠ 0 := Nat.cast_ne_zero.mpr (Nat.ne_of_gt Double.one_pos)
  rw [value_eq_units_div, value_eq_units_div, div_left_inj' hone, Int.cast_inj]

/-- A signed word is fixed by its units. -/
theorem eq_of_units_ofInt64_eq {i j : Int64} (h : (ofInt64 i).units = (ofInt64 j).units) :
    i = j := by
  rw [← value_eq_value_iff] at h
  exact Int64.toInt_inj.mp (Int.cast_injective h)

/-- The units of a number with a short exact value. -/
theorem natAbs_units_lt {n : Number} (h : |n.value| < 2 ^ 53) :
    n.units.natAbs < Nat.pow 2 53 * Double.one := by
  have hone : (0 : ℚ) < Double.one := Nat.cast_pos.mpr Double.one_pos
  rw [value_eq_units_div, abs_div, abs_of_pos hone, div_lt_iff₀ hone] at h
  have hcast : ((n.units.natAbs : Nat) : ℚ) = |(n.units : ℚ)| := by
    rw [Nat.cast_natAbs, Int.cast_abs]
  have hbits : ((Nat.pow 2 53 : Nat) : ℚ) = 2 ^ 53 := Nat.cast_pow 2 53
  rw [← hcast, ← hbits, ← Nat.cast_mul] at h
  exact Nat.cast_lt.mp h

/-- Whether a value is no number with the double of this one, or it is this number. -/
def ToldApart (n : Number) (found : Json) : Prop :=
  ∀ m, found = .number m → m.toDouble.equals n.toDouble = true → m.value = n.value

/-- The double of a short number tells it from all others. -/
theorem toldApart_of_short {n : Number} (h : |n.value| < 2 ^ 53) (found : Json) :
    n.ToldApart found := by
  intro m _ hequals
  have hround := (equals_toDouble_iff m n).mp hequals
  exact value_eq_value_iff.mpr (units_eq_of_nearest_eq (natAbs_units_lt h) hround)

end Number

end Json

namespace Literal

variable {a b : Json} {literal : Literal}

/-- A text or a number has a literal. -/
theorem exists_ofJson? (h : a.IsTextOrNumber) : ∃ literal, ofJson? a = some literal := by
  cases a with
  | string s => exact ⟨_, rfl⟩
  | number n => cases hword : n.toInt64? <;> simp [ofJson?, hword]
  | _ => exact h.elim

/-- The literal of a number equals the numbers that are rounded to the same, but of two signed words
only the same one. -/
theorem equals_number_iff {n : Json.Number} (h : ofJson? (.number n) = some literal)
    (found : Json) : literal.equals found = true ↔ ∃ m, found = .number m ∧
      Double.nearest m.units = Double.nearest n.units ∧
      ∀ i j, n = .ofInt64 i → m = .ofInt64 j → j = i := by
  cases hword : n.toInt64? with
  | none =>
    have hfloat : float n.toDouble = literal := by simpa [ofJson?, hword] using h
    have hnot (i : Int64) : n ≠ .ofInt64 i := by
      rw [ne_eq, ← Json.Number.toInt64?_eq_some_iff, hword]
      exact nofun
    simp [← hfloat, equals_float, Json.Number.equals_toDouble_iff, hnot]
  | some i =>
    -- Only between two words the comparison is exact, and then they are rounded to the same too.
    have hint : int i = literal := by simpa [ofJson?, hword] using h
    obtain rfl := Json.Number.toInt64?_eq_some_iff.mp hword
    rw [← hint, equals_int]
    refine exists_congr fun m => and_congr_right fun _ => ?_
    constructor
    · intro hequals
      refine ⟨Json.Number.sharesDouble_iff.mp hequals.sharesDouble, ?_⟩
      rintro i' j hi rfl
      have hj : j = i := Json.Number.equalsWord_ofInt64.mp hequals
      have hi' : i = i' := Json.Number.equalsWord_ofInt64.mp (.inl hi)
      rw [hj, hi']
    · rintro ⟨hround, hwords⟩
      cases hm : m.toInt64? with
      | none => exact .inr ⟨hm, Json.Number.sharesDouble_iff.mpr hround⟩
      | some j =>
        have hj := Json.Number.toInt64?_eq_some_iff.mp hm
        exact .inl (hwords i j rfl hj ▸ hj)

/-- The literal of a value equals what is the same as the value. -/
theorem equals_of_same (h : ofJson? a = some literal) (hsame : a.Same b) :
    literal.equals b = true := by
  rw [Json.same_iff_agree] at hsame
  cases a with
  | string s =>
    cases b with
    | string t =>
      have htext : text s = literal := Option.some.inj h
      rw [← htext, equals_text]
      exact congrArg Json.string (Eq.symm hsame)
    | _ => exact hsame.elim
  | number n =>
    cases b with
    | number m =>
      obtain ⟨-, hunits⟩ := hsame
      refine (equals_number_iff h _).mpr ⟨m, rfl, congrArg Double.nearest hunits.symm, ?_⟩
      rintro i j rfl rfl
      exact Json.Number.eq_of_units_ofInt64_eq hunits.symm
    | _ => exact hsame.elim
  | _ => cases h

/-- Among values of one form the literal of a value equals nothing else. -/
theorem same_of_equals (h : ofJson? a = some literal) (hform : a.OneForm b)
    (hequals : literal.equals b = true) : a.Same b := by
  cases a with
  | string s =>
    have htext : text s = literal := Option.some.inj h
    rw [← htext, equals_text] at hequals
    exact hequals ▸ .refl _
  | number n =>
    obtain ⟨m, rfl, hround, hwords⟩ := (equals_number_iff h _).mp hequals
    rcases hform with ⟨i, j, hi, hj⟩ | ⟨x, y, rfl, rfl⟩
    · rw [hi, hj, hwords i j hi hj]
      exact .refl _
    · simp only [Json.Number.units, Double.nearest_signedUnits] at hround
      exact Json.same_iff_agree.mpr ⟨rfl, hround.symm⟩
  | _ => cases h

/-- The literal of a number equals the numbers with its exact value, if its double tells it from the
others. -/
theorem equals_iff_exactValue? {n : Json.Number} (h : ofJson? (.number n) = some literal)
    (hapart : n.ToldApart b) : literal.equals b = true ↔ b.exactValue? = some n.value := by
  constructor
  · intro hequals
    obtain ⟨m, rfl, hround, -⟩ := (equals_number_iff h _).mp hequals
    exact congrArg some (hapart m rfl ((Json.Number.equals_toDouble_iff m n).mpr hround))
  · intro hvalue
    cases b with
    | number m =>
      have hunits := Json.Number.value_eq_value_iff.mp (Option.some.inj hvalue)
      refine (equals_number_iff h _).mpr ⟨m, rfl, congrArg Double.nearest hunits, ?_⟩
      rintro i j rfl rfl
      exact Json.Number.eq_of_units_ofInt64_eq hunits
    | _ => cases hvalue

/-- What the literal of a number equals is a number. -/
theorem exists_number_of_equals {n : Json.Number} (h : ofJson? (.number n) = some literal)
    (hequals : literal.equals b = true) : ∃ m, b = .number m := by
  obtain ⟨m, hm, -⟩ := (equals_number_iff h b).mp hequals
  exact ⟨m, hm⟩

end Literal

namespace GroupStage

variable {stage : GroupStage} {docs : List Document} {key : Json} {literal : Literal}

/-- A search for a key looks at the member by which documents are grouped. -/
theorem accepts_eq_key (stage : GroupStage) (literal : Literal) (doc : Document) :
    (Filter.eq stage.key literal).accepts doc = literal.equals (doc.valueOrNull stage.key) :=
  Bool.and_true _

/-- What a search for a key finds has a key that equals the literal. -/
theorem equals_of_mem_filter {doc : Document}
    (h : doc ∈ docs.filter (Filter.eq stage.key literal).accepts) :
    literal.equals (doc.valueOrNull stage.key) = true := by
  rw [← accepts_eq_key]
  exact (List.mem_filter.mp h).2

/-- Whether a search found a key: it found the documents with the key in their order, and besides
them at most documents with numbers that are not of the form of the key. The search for a text finds
nothing else, and that for a number goes by its exact value, if it is short or its double tells it
from the others. -/
structure FindsKey (stage : GroupStage) (docs : List Document) (key : Json)
    (found : List Document) : Prop where
  sublist : found.Sublist docs
  group : found.filter (stage.hasKey key) = stage.withKey key docs
  text : ∀ s, key = .string s → found = stage.withKey key docs
  number : ∀ n, key = .number n → ∀ doc ∈ found, ∃ m, doc.valueOrNull stage.key = .number m
  oneForm : ∀ doc ∈ found, key.OneForm (doc.valueOrNull stage.key) → stage.hasKey key doc = true
  exact : ∀ n, key = .number n →
    (|n.value| < 2 ^ 53 ∨ ∀ doc ∈ docs, n.ToldApart (doc.valueOrNull stage.key)) →
    found = docs.filter fun doc => (doc.valueOrNull stage.key).exactValue? == some n.value

/-- A search for the literal of a key finds the key. -/
theorem findsKey (h : Literal.ofJson? key = some literal) (docs : List Document) :
    FindsKey stage docs key (docs.filter (Filter.eq stage.key literal).accepts) where
  sublist := List.filter_sublist
  group := by
    rw [List.filter_filter, withKey]
    refine List.filter_congr fun doc _ => ?_
    rw [accepts_eq_key]
    by_cases hsame : key.Same (doc.valueOrNull stage.key)
    · simp [hasKey, hsame, Literal.equals_of_same h hsame]
    · simp [hasKey, hsame]
  text s hs := by
    subst hs
    refine List.filter_congr fun doc _ => ?_
    rw [accepts_eq_key, Bool.eq_iff_iff, decide_eq_true_iff]
    exact ⟨Literal.same_of_equals h trivial, Literal.equals_of_same h⟩
  number n hn doc hdoc := by
    subst hn
    exact Literal.exists_number_of_equals h (equals_of_mem_filter hdoc)
  oneForm doc hdoc hform :=
    decide_eq_true (Literal.same_of_equals h hform (equals_of_mem_filter hdoc))
  exact n hn hexact := by
    subst hn
    refine List.filter_congr fun doc hdoc => ?_
    have hapart : n.ToldApart (doc.valueOrNull stage.key) := by
      rcases hexact with hshort | hall
      · exact Json.Number.toldApart_of_short hshort _
      · exact hall doc hdoc
    rw [accepts_eq_key, Bool.eq_iff_iff, beq_iff_eq]
    exact Literal.equals_iff_exactValue? h hapart

end GroupStage

namespace Memory

open GroupStage (keyOutput FindsKey SumsUp)

/-- The rows of a group stage can be searched for by their keys: the row of a text or a number sums
up just the documents with its key, and a search for the key finds them. So an equality with the key
of a document holds for every document of its group, and for nothing else among keys of one form. -/
theorem groupRows_found (memory : Memory) {now : Nat} {collection : String} {options : CallOptions}
    (hlive : options.isExpired now = false) (hname : Collection.isName collection.toList = true)
    {stage : GroupStage} (houtputs : ∀ sum ∈ stage.sums, sum.output ≠ keyOutput) :
    let docs := memory.documents collection
    (∃ rows, memory.aggregate now collection ⟨[stage]⟩ options = .ok rows ∧
      ∀ row ∈ rows, ∃ key, row.get? keyOutput = some key ∧
        SumsUp stage stage.outputs.members key (stage.withKey key docs) row ∧
        (key.IsTextOrNumber → ∃ literal found, Literal.ofJson? key = some literal ∧
          memory.find now collection (.eq stage.key literal) options = .ok found ∧
          FindsKey stage docs key found)) ∧
    ∀ (doc other : Document) (literal : Literal),
      Literal.ofJson? (doc.valueOrNull stage.key) = some literal →
      ((doc.valueOrNull stage.key).Same (other.valueOrNull stage.key) →
        (Filter.eq stage.key literal).accepts other = true) ∧
      ((doc.valueOrNull stage.key).OneForm (other.valueOrNull stage.key) →
        ((Filter.eq stage.key literal).accepts other = true ↔
          (doc.valueOrNull stage.key).Same (other.valueOrNull stage.key))) ∧
      ∀ n, doc.valueOrNull stage.key = .number n → n.ToldApart (other.valueOrNull stage.key) →
        ((Filter.eq stage.key literal).accepts other = true ↔
          (other.valueOrNull stage.key).exactValue? = some n.value) := by
  intro docs
  constructor
  · refine ⟨stage.apply docs, memory.aggregate_eq_ok hlive hname _, fun row hrow => ?_⟩
    rw [GroupStage.apply, GroupStage.groups_eq, List.map_map] at hrow
    obtain ⟨key, -, rfl⟩ := List.mem_map.mp hrow
    have hsums := GroupStage.sumsUp_row stage docs key
    refine ⟨key, (hsums.key houtputs).1, hsums, fun hkind => ?_⟩
    obtain ⟨literal, hliteral⟩ := Literal.exists_ofJson? hkind
    exact ⟨literal, _, hliteral, memory.find_eq_ok hlive hname _,
      GroupStage.findsKey hliteral docs⟩
  · intro doc other literal hliteral
    rw [GroupStage.accepts_eq_key]
    refine ⟨Literal.equals_of_same hliteral, fun hform => ?_, fun n hn hapart => ?_⟩
    · exact ⟨Literal.same_of_equals hliteral hform, Literal.equals_of_same hliteral⟩
    · exact Literal.equals_iff_exactValue? (hn ▸ hliteral) hapart

/-- The rows of a stage whose keys are a word, the double with its value, a text and `null`. -/
theorem groupRows_found_mixed :
    let docs : List Document := [⟨[("v", .ofInt64 1), ("w", .ofInt64 5)]⟩, ⟨[("v", .string "1")]⟩,
      ⟨[("v", .ofDouble (.ofInt 1))]⟩, ⟨[("w", .ofInt64 2), ("v", .ofInt64 1)]⟩, .empty]
    let memory : Memory := ⟨[("stock", docs)], 0⟩
    let stage : GroupStage := ⟨"v", [⟨"total", "w"⟩]⟩
    CallOptions.unbounded.isExpired 0 = false ∧ Collection.isName "stock".toList = true ∧
      (∀ sum ∈ stage.sums, sum.output ≠ keyOutput) ∧
      ∃ rows, memory.aggregate 0 "stock" ⟨[stage]⟩ .unbounded = .ok rows ∧
        ∀ row ∈ rows, ∃ key, row.get? keyOutput = some key ∧
          (key.IsTextOrNumber → ∃ literal found, Literal.ofJson? key = some literal ∧
            memory.find 0 "stock" (.eq "v" literal) .unbounded = .ok found ∧
            FindsKey stage docs key found) := by
  intro docs memory stage
  have hname : Collection.isName "stock".toList = true := by decide
  have houtputs : ∀ sum ∈ stage.sums, sum.output ≠ keyOutput := by decide
  have hlive : CallOptions.unbounded.isExpired 0 = false := rfl
  obtain ⟨rows, hrows, hfound⟩ := (groupRows_found memory hlive hname houtputs).1
  refine ⟨hlive, hname, houtputs, rows, hrows, fun row hrow => ?_⟩
  obtain ⟨key, hkey, -, hsearch⟩ := hfound row hrow
  exact ⟨key, hkey, hsearch⟩

/-- A word and the double with its value are keys of two rows, but a search for the one finds the
other too. -/
theorem groupRows_found_other_form :
    let docs : List Document := [⟨[("v", .ofInt64 1)]⟩, ⟨[("v", .ofDouble (.ofInt 1))]⟩]
    let memory : Memory := ⟨[("stock", docs)], 0⟩
    let stage : GroupStage := .on "v"
    memory.aggregate 0 "stock" ⟨[stage]⟩ .unbounded =
        .ok [⟨[("_id", .ofInt64 1)]⟩, ⟨[("_id", .ofDouble (.ofInt 1))]⟩] ∧
      Literal.ofJson? (.ofInt64 1) = some (.int 1) ∧
      memory.find 0 "stock" (.eq "v" (.int 1)) .unbounded = .ok docs ∧
      stage.withKey (.ofInt64 1) docs = [⟨[("v", .ofInt64 1)]⟩] := by
  decide +kernel

end Memory

end Stockroom
