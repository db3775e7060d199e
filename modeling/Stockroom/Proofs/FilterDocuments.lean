import Stockroom.Proofs.LimitLiterals
import Stockroom.Proofs.SameValues

/-!
# Document forms of filters

The document form of a filter can be read back as long as the doubles in it are finite: no two
literals have one JSON form, no two conditions have one, and each clause has a member of its own. So
filters can be told from their document forms. By the values in these forms, which do not tell the
two zeros apart, filters can be told but for the signs of zeros.
-/

namespace Stockroom

namespace Literal

/-- A literal is read back from its JSON form. -/
theorem ofJson?_toJson {literal : Literal} (h : literal.IsFinite) :
    ofJson? literal.toJson = some literal := by
  cases literal with
  | text s => rfl
  | int i => simp only [toJson, Json.ofInt64, ofJson?, Json.Number.toInt64?_eq_some_iff.mpr rfl]
  | float x =>
    cases x with
    | finite value => rfl
    | nan => cases h
    | infinite negative => cases h

/-- The literal with every negative zero positive. -/
def canonical : Literal → Literal
  | float (.finite x) => float (.finite x.withoutNegativeZero)
  | literal => literal

/-- A literal stays finite without negative zeros. -/
theorem IsFinite.canonical {literal : Literal} (h : literal.IsFinite) :
    literal.canonical.IsFinite := by
  cases literal with
  | text s => exact h
  | int i => exact h
  | float x => cases x <;> exact h

/-- The JSON form of a literal loses its negative zero as the literal does. -/
theorem canonical_toJson {literal : Literal} (h : literal.IsFinite) :
    literal.toJson.canonical = literal.canonical.toJson := by
  cases literal with
  | text s => rfl
  | int i => rfl
  | float x =>
    cases x with
    | finite value => rfl
    | nan => cases h
    | infinite negative => cases h

end Literal

/-- Items are read back from written ones if each item is. -/
theorem mapM_map_eq_some {α β : Type} {write : α → β} {read : β → Option α} {items : List α}
    (h : ∀ item ∈ items, read (write item) = some item) :
    (items.map write).mapM read = some items := by
  induction items with
  | nil => rfl
  | cons item rest ih =>
    obtain ⟨hitem, hrest⟩ := List.forall_mem_cons.mp h
    simp [hitem, ih hrest]

namespace Condition

/-- The condition that has a JSON form. -/
def ofJson? : Json → Option Condition
  | .object members =>
    match Entries.get? "$eq" members, Entries.get? "$in" members with
    | some value, _ => (Literal.ofJson? value).map eq
    | none, some (.array values) => (values.mapM Literal.ofJson?).map oneOf
    | none, some _ => none
    | none, none => some (range ⟨(Entries.get? "$gt" members).bind Literal.ofJson?,
        (Entries.get? "$lt" members).bind Literal.ofJson?⟩)
  | _ => none

/-- A condition is read back from its JSON form. -/
theorem ofJson?_toJson {condition : Condition}
    (h : ∀ literal ∈ condition.literals, literal.IsFinite) :
    ofJson? condition.toJson = some condition := by
  have hread {literal : Literal} (hmem : literal ∈ condition.literals) :=
    Literal.ofJson?_toJson (h literal hmem)
  cases condition with
  | eq literal => simp [toJson, ofJson?, Entries.get?, hread List.mem_cons_self]
  | oneOf items =>
    have hform : ofJson? (oneOf items).toJson =
        ((items.map Literal.toJson).mapM Literal.ofJson?).map oneOf := rfl
    have hitems : (items.map Literal.toJson).mapM Literal.ofJson? = some items :=
      mapM_map_eq_some fun literal hmem => hread hmem
    rw [hform, hitems]
    rfl
  | range bounds =>
    obtain ⟨gt, lt⟩ := bounds
    cases gt <;> cases lt <;> simp_all [toJson, ofJson?, Entries.get?, literals]

/-- The condition with every negative zero positive. -/
def canonical : Condition → Condition
  | eq literal => eq literal.canonical
  | oneOf literals => oneOf (literals.map Literal.canonical)
  | range ⟨gt, lt⟩ => range ⟨gt.map Literal.canonical, lt.map Literal.canonical⟩

/-- The literals lose their negative zeros. -/
theorem literals_canonical (condition : Condition) :
    condition.canonical.literals = condition.literals.map Literal.canonical := by
  cases condition with
  | eq literal => rfl
  | oneOf items => rfl
  | range bounds =>
    obtain ⟨gt, lt⟩ := bounds
    cases gt <;> cases lt <;> rfl

/-- The JSON form of a condition loses its negative zeros as the condition does. -/
theorem canonical_toJson {condition : Condition}
    (h : ∀ literal ∈ condition.literals, literal.IsFinite) :
    condition.toJson.canonical = condition.canonical.toJson := by
  have hform {literal : Literal} (hmem : literal ∈ condition.literals) :=
    Literal.canonical_toJson (h literal hmem)
  cases condition with
  | eq literal =>
    simp [toJson, canonical, Json.canonical, Json.canonicalMembers, Entries.place,
      hform List.mem_cons_self]
  | oneOf items =>
    have hitems : (items.map Literal.toJson).map Json.canonical =
        (items.map Literal.canonical).map Literal.toJson := by
      rw [List.map_map, List.map_map]
      exact List.map_congr_left fun literal hmem => hform hmem
    simp only [toJson, canonical, Json.canonical, Json.canonicalMembers, Entries.place,
      Json.canonicalItems_eq_map, hitems]
  | range bounds =>
    obtain ⟨gt, lt⟩ := bounds
    have hnames : ("$gt" : String) < "$lt" := by decide
    cases gt <;> cases lt <;>
      simp_all [toJson, canonical, Json.canonical, Json.canonicalMembers, Entries.place, literals]

end Condition

namespace Filter

variable {filter other : Filter}

/-- Whether all doubles of a filter are finite. -/
def IsFinite (filter : Filter) : Prop :=
  ∀ literal ∈ filter.literals, literal.IsFinite

/-- The literals of a clause are literals of the filter. -/
theorem IsFinite.of_mem (h : filter.IsFinite) {clause : String × Condition}
    (hmem : clause ∈ filter.clauses) : ∀ literal ∈ clause.2.literals, literal.IsFinite :=
  fun literal hliteral => h literal (List.mem_flatMap.mpr ⟨clause, hmem, hliteral⟩)

/-- The clause that a member of a document form stands for. -/
def readClause (member : String × Json) : Option (String × Condition) :=
  (Condition.ofJson? member.2).map (member.1, ·)

/-- The filter that has a document form. -/
def ofDocument? (doc : Document) : Option Filter :=
  (doc.members.mapM readClause).map Filter.mk

/-- A filter is read back from its document form. -/
theorem Distinct.ofDocument?_toDocument (h : filter.Distinct) (hfinite : filter.IsFinite) :
    ofDocument? filter.toDocument = some filter := by
  have hclauses : (filter.clauses.map clauseMember).mapM readClause = some filter.clauses := by
    refine mapM_map_eq_some fun clause hmem => ?_
    rw [readClause, clauseMember, Condition.ofJson?_toJson (hfinite.of_mem hmem)]
    rfl
  rw [ofDocument?, h.members_toDocument, hclauses]
  rfl

/-- Filters with one document form are equal. -/
theorem Distinct.eq_of_toDocument_eq (h : filter.Distinct) (hfinite : filter.IsFinite)
    (hother : other.Distinct) (hotherFinite : other.IsFinite)
    (heq : filter.toDocument = other.toDocument) : filter = other := by
  have hread := hother.ofDocument?_toDocument hotherFinite
  rw [← heq, h.ofDocument?_toDocument hfinite] at hread
  exact Option.some.inj hread

/-- The filter with every negative zero positive. -/
def canonical (filter : Filter) : Filter :=
  ⟨filter.clauses.map fun clause => (clause.1, clause.2.canonical)⟩

/-- The fields keep their clauses. -/
theorem Distinct.canonical (h : filter.Distinct) : filter.canonical.Distinct := by
  have hnames : filter.canonical.clauses.names = filter.clauses.names := by
    simp [Filter.canonical, Entries.names]
  rw [Distinct, hnames]
  exact h

/-- The literals stay finite. -/
theorem IsFinite.canonical (h : filter.IsFinite) : filter.canonical.IsFinite := by
  intro literal hliteral
  obtain ⟨clause, hclause, hmem⟩ := List.mem_flatMap.mp hliteral
  obtain ⟨original, horiginal, rfl⟩ := List.mem_map.mp hclause
  simp only [Condition.literals_canonical] at hmem
  obtain ⟨first, hfirst, rfl⟩ := List.mem_map.mp hmem
  exact (h.of_mem horiginal first hfirst).canonical

/-- The document form loses its negative zeros as the filter does. -/
theorem Distinct.members_toDocument_canonical (h : filter.Distinct) (hfinite : filter.IsFinite) :
    filter.canonical.toDocument.members =
      filter.toDocument.members.map fun member => (member.1, member.2.canonical) := by
  rw [h.canonical.members_toDocument, h.members_toDocument, Filter.canonical, List.map_map,
    List.map_map]
  refine List.map_congr_left fun clause hmem => ?_
  simp [clauseMember, Condition.canonical_toJson (hfinite.of_mem hmem)]

/-- Filters are equal but for the signs of zeros if their document forms have the same members in
the same order. -/
theorem Distinct.canonical_eq (h : filter.Distinct) (hfinite : filter.IsFinite)
    (hother : other.Distinct) (hotherFinite : other.IsFinite)
    (hsame : List.Forall₂ (fun left right => left.1 = right.1 ∧ left.2.Same right.2)
      filter.toDocument.members other.toDocument.members) :
    filter.canonical = other.canonical := by
  have hmembers : filter.canonical.toDocument.members = other.canonical.toDocument.members := by
    rw [h.members_toDocument_canonical hfinite, hother.members_toDocument_canonical hotherFinite,
      ← List.forall₂_eq_eq_eq, List.forall₂_map_left_iff, List.forall₂_map_right_iff]
    exact hsame.imp fun left right hmember => Prod.ext hmember.1 hmember.2
  exact h.canonical.eq_of_toDocument_eq hfinite.canonical hother.canonical hotherFinite.canonical
    (congrArg Document.mk hmembers)

end Filter

end Stockroom
