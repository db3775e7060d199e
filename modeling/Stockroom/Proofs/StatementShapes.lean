import Stockroom.Proofs.Fragments

/-!
# Shapes of requests

The shape of a request is what is left of it without the names of its fields and without its values.
Every emitter of pieces is settled once: with its values taken out, what it emits is what it emits
for a blank request of the same shape. So the text of a statement is a text that its shape fixes, with
one place for the name of the table.
-/

namespace Stockroom

/-! ### Shapes -/

/-- The kind of a literal. -/
inductive LiteralKind
  | text
  | float
  | int
  deriving DecidableEq

/-- What a condition is without its literals. -/
inductive ConditionShape
  | eq (kind : LiteralKind)
  | oneOf (kinds : List LiteralKind)
  | range (gt lt : Option LiteralKind)
  deriving DecidableEq

/-- The kind of a literal, without its value. -/
def Literal.kind : Literal → LiteralKind
  | text _ => .text
  | float _ => .float
  | int _ => .int

/-- The shape of a condition: its variant and the kinds of its literals. -/
def Condition.shape : Condition → ConditionShape
  | eq literal => .eq literal.kind
  | oneOf literals => .oneOf (literals.map Literal.kind)
  | range ⟨gt, lt⟩ => .range (gt.map Literal.kind) (lt.map Literal.kind)

/-- The shape of a filter: the shapes of its conditions, without the fields. -/
def Filter.shape (filter : Filter) : List ConditionShape :=
  filter.clauses.map fun (_, cond) => cond.shape

/-- The shape of a pipeline: how many sums each stage has. -/
def Pipeline.shape (pipeline : Pipeline) : List Nat :=
  pipeline.stages.map fun stage => stage.sums.length

/-! ### Blank requests -/

/-- A literal of each kind. -/
def LiteralKind.blank : LiteralKind → Literal
  | text => .text ""
  | float => .float .zero
  | int => .int 0

/-- A condition of each shape. -/
def ConditionShape.blank : ConditionShape → Condition
  | eq kind => .eq kind.blank
  | oneOf kinds => .oneOf (kinds.map LiteralKind.blank)
  | range gt lt => .range ⟨gt.map LiteralKind.blank, lt.map LiteralKind.blank⟩

/-- A filter of each shape. -/
def Filter.blank (shape : List ConditionShape) : Filter :=
  ⟨shape.map fun cond => ("", cond.blank)⟩

/-- Sums of each number. -/
def SumField.blanks (count : Nat) : List SumField :=
  List.replicate count ⟨"", ""⟩

namespace Postgres

/-! ### Pieces without values -/

/-- A piece without the value that it binds. -/
def Piece.withoutValue : Piece → Piece
  | .sql text => .sql text
  | .bind _ => .bind (.text "")

/-- Pieces without the values that they bind. -/
def withoutValues (pieces : List Piece) : List Piece :=
  pieces.map Piece.withoutValue

@[simp] theorem withoutValues_sql (text : String) : withoutValues (sql text) = sql text := rfl

@[simp] theorem withoutValues_append (left right : List Piece) :
    withoutValues (left ++ right) = withoutValues left ++ withoutValues right :=
  List.map_append

/-- Values are taken out of fragments one by one. -/
theorem withoutValues_separated (separator : String) (fragments : List (List Piece)) :
    withoutValues (separated separator fragments) =
      separated separator (fragments.map withoutValues) := by
  induction fragments with
  | nil => rfl
  | cons fragment rest ih =>
    cases rest with
    | nil => rfl
    | cons next rest =>
      rw [separated_cons_cons, withoutValues_append, withoutValues_append, withoutValues_sql, ih]
      rfl

/-- Fragments are the same without their values if each of them is. -/
theorem withoutValues_separated_congr (separator : String) {first second : List (List Piece)}
    (h : first.map withoutValues = second.map withoutValues) :
    withoutValues (separated separator first) = withoutValues (separated separator second) := by
  rw [withoutValues_separated, withoutValues_separated, h]

/-- Pieces in parentheses are the same without their values if they are so without parentheses. -/
theorem withoutValues_inParentheses {left right : List Piece}
    (h : withoutValues left = withoutValues right) :
    withoutValues (sql "(" ++ left ++ sql ")") = withoutValues (sql "(" ++ right ++ sql ")") := by
  simp only [withoutValues_append, h]

/-- Values do not show in the text. -/
theorem rendered_withoutValues (number : Nat) (pieces : List Piece) :
    rendered number (withoutValues pieces) = rendered number pieces := by
  have hparts : ∀ number, Statement.renderFrom number (withoutValues pieces) =
      Statement.renderFrom number pieces := by
    induction pieces with
    | nil => exact fun _ => rfl
    | cons piece rest ih =>
      intro number
      cases piece with
      | sql text => exact congrArg (text :: ·) (ih number)
      | bind value => exact congrArg (s!"${number}" :: ·) (ih (number + 1))
  rw [rendered, hparts, rendered]

/-- Pieces that are the same without their values have the same text. -/
theorem rendered_congr {left right : List Piece} (h : withoutValues left = withoutValues right)
    (number : Nat) : rendered number left = rendered number right := by
  rw [← rendered_withoutValues, h, rendered_withoutValues]

/-! ### Emitters -/

/-- An equality shows the kind of its literal only. -/
theorem withoutValues_equality (field : String) (literal : Literal) :
    withoutValues (equality field literal) = withoutValues (equality "" literal.kind.blank) := by
  cases literal <;> rfl

/-- A comparison shows its operator and the kind of its literal only. -/
theorem withoutValues_comparison (field operator : String) (literal : Literal) :
    withoutValues (comparison field operator literal) =
      withoutValues (comparison "" operator literal.kind.blank) := by
  cases literal <;> rfl

/-- The comparisons of a range show the kinds of its bounds only. -/
theorem withoutValues_comparisons (field : String) (gt lt : Option Literal) :
    (comparisons field ⟨gt, lt⟩).map withoutValues =
      (comparisons "" ⟨(gt.map Literal.kind).map LiteralKind.blank,
        (lt.map Literal.kind).map LiteralKind.blank⟩).map withoutValues := by
  have hside (operator : String) : withoutValues ∘ comparison field operator =
      withoutValues ∘ comparison "" operator ∘ LiteralKind.blank ∘ Literal.kind :=
    funext (withoutValues_comparison field operator)
  simp only [comparisons, List.map_append, Option.toList_map, List.map_map, hside]

/-- A condition shows its shape only. -/
theorem withoutValues_condition (field : String) (cond : Condition) :
    withoutValues (condition field cond) = withoutValues (condition "" cond.shape.blank) := by
  cases cond with
  | eq literal => exact withoutValues_equality field literal
  | oneOf literals =>
    cases literals with
    | nil => rfl
    | cons first others =>
      have heach : ((first :: others).map (equality field)).map withoutValues =
          ((((first :: others).map Literal.kind).map LiteralKind.blank).map (equality "")).map
            withoutValues := by
        simp only [List.map_map]
        exact List.map_congr_left fun literal _ => withoutValues_equality field literal
      exact withoutValues_inParentheses (withoutValues_separated_congr " OR " heach)
  | range bounds =>
    obtain ⟨gt, lt⟩ := bounds
    have hlist := withoutValues_inParentheses
      (withoutValues_separated_congr " AND " (withoutValues_comparisons field gt lt))
    -- only the range without bounds has no parentheses
    cases gt with
    | none =>
      cases lt with
      | none => rfl
      | some high => exact hlist
    | some low => exact hlist

/-- The clauses of a filter show its shape only. -/
theorem withoutValues_conjunction (filter : Filter) :
    withoutValues (conjunction filter) = withoutValues (conjunction (.blank filter.shape)) := by
  obtain ⟨clauses⟩ := filter
  cases clauses with
  | nil => rfl
  | cons first others =>
    refine withoutValues_separated_congr " AND " ?_
    simp only [Filter.shape, Filter.blank, List.map_map]
    exact List.map_congr_left fun clause _ => withoutValues_condition clause.1 clause.2

/-- The members of a row show how many sums there are. -/
theorem withoutValues_rowMembers (place : Nat) (sums : List SumField) :
    withoutValues (rowMembers place sums) =
      withoutValues (rowMembers place (SumField.blanks sums.length)) := by
  induction sums generalizing place with
  | nil => rfl
  | cons sum rest ih =>
    rw [rowMembers, withoutValues_append, ih]
    rfl

/-- The sums of the subquery show how many there are. -/
theorem withoutValues_sumColumns (place : Nat) (sums : List SumField) :
    withoutValues (sumColumns place sums) =
      withoutValues (sumColumns place (SumField.blanks sums.length)) := by
  induction sums generalizing place with
  | nil => rfl
  | cons sum rest ih =>
    rw [sumColumns, withoutValues_append, ih]
    rfl

/-! ### Templates -/

/-- A text with one place for the name of a table. -/
structure Template where
  before : String
  after : String
  deriving DecidableEq

/-- The text with a name in quotation marks in its place. -/
def Template.fill (template : Template) (table : String) : String :=
  template.before ++ ("\"" ++ table ++ "\"") ++ template.after

/-- The text of a filter. -/
def selectTemplate (shape : List ConditionShape) : Template :=
  ⟨"SELECT doc FROM ",
    " WHERE " ++ rendered 1 (conjunction (.blank shape)) ++ " ORDER BY seq"⟩

/-- The pieces of a group stage in front of the table. -/
def groupColumns (key : String) (sums : List SumField) : List Piece :=
  sql "SELECT jsonb_build_object(" ++ bindText GroupStage.keyOutput ++ sql "::text, g.key" ++
    rowMembers 0 sums ++ sql ") AS doc FROM (SELECT doc -> " ++ bindText key ++
    sql " AS key, MIN(seq) AS first_seq" ++ sumColumns 0 sums

/-- The text of a group stage. -/
def groupTemplate (count : Nat) : Template :=
  ⟨rendered 1 (groupColumns "" (SumField.blanks count)) ++ " FROM ",
    " GROUP BY 1) g ORDER BY g.first_seq"⟩

/-- The text of a pipeline, if it is supported. -/
def pipelineTemplate? : List Nat → Option Template
  | [] => some (selectTemplate [])
  | [count] => some (groupTemplate count)
  | _ => none

/-- The text of a batch. -/
def insertTemplate (count : Nat) : Template :=
  ⟨"INSERT INTO ", " (doc) VALUES " ++
    rendered 1 (separated ", " (List.replicate count (sql "(" ++ bindText "" ++ sql ")")))⟩

/-- The text that creates a table. -/
def createTemplate : Template :=
  ⟨"CREATE TABLE IF NOT EXISTS ", " (seq BIGSERIAL PRIMARY KEY, doc JSONB NOT NULL)"⟩

/-- The text of a filter is fixed by its shape and the table. -/
theorem text_selectStatement (table : String) (filter : Filter) :
    (selectStatement table filter).text = (selectTemplate filter.shape).fill table := by
  have hclauses := rendered_congr (withoutValues_conjunction filter) 1
  rw [selectStatement, text_eq_rendered, rendered_append, rendered_append, rendered_sql,
    rendered_sql, boundValues_sql, List.length_nil, Nat.add_zero, hclauses]
  simp only [Template.fill, selectTemplate, quotedTable, String.append_assoc]

/-- The pieces of a group stage in front of the table show how many sums there are. -/
theorem withoutValues_groupColumns (key : String) (sums : List SumField) :
    withoutValues (groupColumns key sums) =
      withoutValues (groupColumns "" (SumField.blanks sums.length)) := by
  simp only [groupColumns, withoutValues_append, withoutValues_rowMembers 0 sums,
    withoutValues_sumColumns 0 sums]
  rfl

/-- The text of a group stage is fixed by the number of its sums and the table. -/
theorem text_groupStatement (table : String) (stage : GroupStage) :
    (groupStatement table stage).text = (groupTemplate stage.sums.length).fill table := by
  have hcolumns := rendered_congr (withoutValues_groupColumns stage.key stage.sums) 1
  have hpieces : groupStatement table stage = ⟨groupColumns stage.key stage.sums ++
      sql (" FROM " ++ quotedTable table ++ " GROUP BY 1) g ORDER BY g.first_seq")⟩ := rfl
  rw [hpieces, text_eq_rendered, rendered_append, rendered_sql, hcolumns]
  simp only [Template.fill, groupTemplate, quotedTable, String.append_assoc]

/-- The text of a supported pipeline is fixed by its shape and the table. -/
theorem exists_template_pipelineStatement {table : String} {pipeline : Pipeline}
    {statement : Statement} (h : pipelineStatement table pipeline = .ok statement) :
    ∃ template ∈ pipelineTemplate? pipeline.shape, statement.text = template.fill table := by
  obtain ⟨stages⟩ := pipeline
  match stages, h with
  | [], h =>
    cases h
    exact ⟨_, rfl, text_selectStatement table .empty⟩
  | [stage], h =>
    cases h
    exact ⟨_, rfl, text_groupStatement table stage⟩

/-- The text of a batch is fixed by its length and the table. -/
theorem text_insertStatement (table : String) (docs : List Document) :
    (insertStatement table docs).text = (insertTemplate docs.length).fill table := by
  let row : Document → List Piece := fun doc => sql "(" ++ [.bind (.jsonb doc)] ++ sql ")"
  have heach : (docs.map row).map withoutValues =
      (List.replicate docs.length (sql "(" ++ bindText "" ++ sql ")")).map withoutValues := by
    rw [List.map_map, List.map_replicate]
    exact List.map_eq_replicate_iff.mpr fun _ _ => rfl
  have hrows := rendered_congr (withoutValues_separated_congr ", " heach) 1
  have hpieces : insertStatement table docs =
      ⟨sql ("INSERT INTO " ++ quotedTable table ++ " (doc) VALUES ") ++
        separated ", " (docs.map row)⟩ := rfl
  rw [hpieces, text_eq_rendered, rendered_append, rendered_sql, boundValues_sql, List.length_nil,
    Nat.add_zero, hrows]
  simp only [Template.fill, insertTemplate, quotedTable, String.append_assoc]

/-- The text that creates a table is fixed by its name. -/
theorem text_createStatement (table : String) :
    (createStatement table).text = createTemplate.fill table := by
  rw [createStatement, text_eq_rendered, rendered_sql]
  rfl

end Postgres

end Stockroom
