import Mathlib.Data.List.Forall2
import Stockroom.Proofs.StatementText

/-!
# Placeholders and bound values of statements

Each kind of fragment is settled once: which values it binds, that its fixed texts leave placeholders
alone, and that it closes the parentheses it opens. Main statement: in the text of every statement
the placeholders are numbered without a gap, and the values behind them are those of its request in
their order; a filter becomes one term for each clause.
-/

namespace Stockroom.Collection

/-- A name consists of letters, digits and underscores. -/
theorem isPart_of_mem {name : List Char} (h : isName name = true) {c : Char} (hmem : c ∈ name) :
    isPart c = true := by
  cases name with
  | nil => cases hmem
  | cons first rest =>
    simp only [isName, Bool.and_eq_true, List.all_eq_true] at h
    obtain ⟨⟨hstart, hparts⟩, -⟩ := h
    rcases List.mem_cons.mp hmem with rfl | hrest
    · simp only [isStart, Bool.or_eq_true] at hstart
      simp only [isPart, Char.isAlphanum, Bool.or_eq_true]
      exact hstart.imp Or.inl id
    · exact hparts c hrest

/-- A name that is accepted is a name. -/
theorem isName_of_validate {name : String} (h : validate name = .ok name) :
    isName name.toList = true := by
  rw [validate] at h
  split at h
  case isTrue hname => exact hname
  case isFalse => cases h

end Stockroom.Collection

namespace Stockroom.Postgres

/-! ### Values of requests -/

/-- A literal as a value. -/
def literalValue : Literal → Binding
  | .text s => .text s
  | .float x => .float8 x
  | .int i => .int8 i

/-- The values of a comparison with a typed member, which names the field twice. -/
def comparisonValues (field : String) (literal : Literal) : List Binding :=
  [.text field, .text field, literalValue literal]

/-- The values of an equality. Texts are compared without a typed member. -/
def equalityValues (field : String) : Literal → List Binding
  | .text s => [.text field, .text s]
  | .float x => comparisonValues field (.float x)
  | .int i => comparisonValues field (.int i)

/-- The values of a condition. -/
def conditionValues (field : String) : Condition → List Binding
  | .eq literal => equalityValues field literal
  | .oneOf literals => literals.flatMap (equalityValues field)
  | .range bounds => (bounds.gt.toList ++ bounds.lt.toList).flatMap (comparisonValues field)

/-- The values of a filter, clause by clause. -/
def filterValues (filter : Filter) : List Binding :=
  filter.clauses.flatMap fun (field, cond) => conditionValues field cond

/-- The values of a group stage: the name of the key and the outputs, the member that is grouped by,
and each summed member twice. -/
def groupValues (stage : GroupStage) : List Binding :=
  .text GroupStage.keyOutput :: stage.sums.map (fun sum => .text sum.output) ++
    .text stage.key :: stage.sums.flatMap fun sum => [.text sum.source, .text sum.source]

/-- The values of a pipeline. -/
def pipelineValues (pipeline : Pipeline) : List Binding :=
  pipeline.stages.flatMap groupValues

/-- The values of a batch. -/
def batchValues (docs : List Document) : List Binding :=
  docs.map .jsonb

/-! ### Fragments that bind values -/

/-- Pieces that bind given values and whose texts leave placeholders alone. -/
structure Binds (pieces : List Piece) (values : List Binding) : Prop where
  inert : ∀ piece ∈ pieces, piece.Inert
  values_eq : boundValues pieces = values

namespace Binds

/-- Rows in a row bind the values of both. -/
theorem append {left right : List Piece} {first second : List Binding} (hleft : Binds left first)
    (hright : Binds right second) : Binds (left ++ right) (first ++ second) where
  inert := List.forall_mem_append.mpr ⟨hleft.inert, hright.inert⟩
  values_eq := by rw [boundValues_append, hleft.values_eq, hright.values_eq]

/-- A text binds nothing. -/
theorem sql {text : String} (h : Inert text) : Binds (sql text) [] where
  inert := List.forall_mem_singleton.mpr h
  values_eq := rfl

/-- A value binds itself. -/
theorem bind (value : Binding) : Binds [.bind value] [value] where
  inert := List.forall_mem_singleton.mpr trivial
  values_eq := rfl

/-- Fragments bind their values in their order. -/
theorem separated {separator : String} (hseparator : Inert separator)
    {fragments : List (List Piece)} {values : List (List Binding)}
    (h : List.Forall₂ Binds fragments values) :
    Binds (separated separator fragments) values.flatten := by
  induction h with
  | nil => exact ⟨List.forall_mem_nil _, rfl⟩
  | cons hfirst hrest ih =>
    cases hrest with
    | nil =>
      rw [List.flatten_cons, List.flatten_nil, List.append_nil]
      exact hfirst
    | cons hsecond hlater =>
      have hstart := hfirst.append (sql hseparator)
      rw [List.append_nil] at hstart
      rw [separated_cons_cons, List.flatten_cons]
      exact hstart.append ih

/-- A fragment for each item binds the values of all items in their order. -/
theorem separated_map {α : Type} {separator : String} (hseparator : Inert separator)
    (items : List α) {fragment : α → List Piece} {values : α → List Binding}
    (h : ∀ item, Binds (fragment item) (values item)) :
    Binds (Postgres.separated separator (items.map fragment)) (items.flatMap values) := by
  have heach : List.Forall₂ Binds (items.map fragment) (items.map values) := by
    rw [List.forall₂_map_left_iff, List.forall₂_map_right_iff]
    exact List.forall₂_same.mpr fun item _ => h item
  rw [List.flatMap_def]
  exact separated hseparator heach

end Binds

/-- Pieces that bind given values and close the parentheses that they open. -/
structure Expression (pieces : List Piece) (values : List Binding) : Prop
    extends Binds pieces values where
  level : Level pieces

namespace Expression

/-- A text without parentheses is an expression. -/
theorem sql {text : String} (h : Inert text) (hlevel : Level (sql text)) :
    Expression (sql text) [] where
  toBinds := .sql h
  level := hlevel

/-- A value is an expression. -/
theorem bind (value : Binding) : Expression [.bind value] [value] where
  toBinds := .bind value
  level := fun _ => rfl

/-- Expressions in a row are one. -/
theorem append {left right : List Piece} {first second : List Binding}
    (hleft : Expression left first) (hright : Expression right second) :
    Expression (left ++ right) (first ++ second) where
  toBinds := hleft.toBinds.append hright.toBinds
  level := hleft.level.append hright.level

/-- An expression in parentheses is one. -/
theorem inParentheses {pieces : List Piece} {values : List Binding}
    (h : Expression pieces values) :
    Expression (Postgres.sql "(" ++ pieces ++ Postgres.sql ")") values where
  toBinds := by
    have hopen : Binds (Postgres.sql "(") [] := .sql (by decide)
    have hclose : Binds (Postgres.sql ")") [] := .sql (by decide)
    have hall := (hopen.append h.toBinds).append hclose
    rwa [List.nil_append, List.append_nil] at hall
  level := h.level.inParentheses

/-- Expressions with a separator between them are one. -/
theorem separated {separator : String} (hseparator : Expression (Postgres.sql separator) [])
    {fragments : List (List Piece)} {values : List (List Binding)}
    (h : List.Forall₂ Expression fragments values) :
    Expression (Postgres.separated separator fragments) values.flatten where
  toBinds := .separated (hseparator.inert _ (List.mem_singleton.mpr rfl))
    (h.imp fun _ _ hfragment => hfragment.toBinds)
  level := by
    refine hseparator.level.separated fun fragment hmem => ?_
    induction h with
    | nil => cases hmem
    | cons hfirst _ ih =>
      rcases List.mem_cons.mp hmem with rfl | hlater
      · exact hfirst.level
      · exact ih hlater

end Expression

/-! ### Members, equalities and comparisons -/

/-- A member of a type binds its field twice. -/
theorem binds_typedMember (field : String) {jsonType sqlType : String}
    (hjson : '$' ∉ jsonType.toList) (hsql : '$' ∉ sqlType.toList) :
    Binds (typedMember field jsonType sqlType) [.text field, .text field] := by
  have hfirst : Binds (sql "(CASE WHEN jsonb_typeof(doc -> ") [] := .sql (by decide)
  have hmiddle : Inert (") = '" ++ jsonType ++ "' THEN (doc ->> ") := by
    rw [String.append_assoc]
    refine Inert.append (by decide) (by decide) ?_
    rw [String.toList_append, List.mem_append]
    exact not_or.mpr ⟨hjson, by decide⟩
  have hlast : Inert (")::" ++ sqlType ++ " END)") := by
    rw [String.append_assoc]
    refine Inert.append (by decide) (by decide) ?_
    rw [String.toList_append, List.mem_append]
    exact not_or.mpr ⟨hsql, by decide⟩
  exact (((hfirst.append (.bind _)).append (.sql hmiddle)).append (.bind _)).append (.sql hlast)

/-- A member of a type closes the parentheses that it opens, if the names of the types do. -/
theorem level_typedMember (field : String) {jsonType sqlType : String}
    (hjson : Level (sql jsonType)) (hsql : Level (sql sqlType)) :
    Level (typedMember field jsonType sqlType) := by
  intro depth
  -- between its first and its last text two parentheses are open
  have hfirst : depthAfter depth "(CASE WHEN jsonb_typeof(doc -> ".toList = some (depth + 2) := rfl
  have hmiddle : depthAfter (depth + 2) (") = '" ++ jsonType ++ "' THEN (doc ->> ").toList =
      some (depth + 2) := by
    have hclose : depthAfter (depth + 2) ") = '".toList = some (depth + 1) := rfl
    have hopen : depthAfter (depth + 1) "' THEN (doc ->> ".toList = some (depth + 2) := rfl
    rw [String.toList_append, String.toList_append, depthAfter_append, depthAfter_append, hclose,
      Option.bind_some, ← depthBehind_sql, hjson, Option.bind_some, hopen]
  have hlast : depthAfter (depth + 2) (")::" ++ sqlType ++ " END)").toList = some depth := by
    have hclose : depthAfter (depth + 2) ")::".toList = some (depth + 1) := rfl
    have hend : depthAfter (depth + 1) " END)".toList = some depth := rfl
    rw [String.toList_append, String.toList_append, depthAfter_append, depthAfter_append, hclose,
      Option.bind_some, ← depthBehind_sql, hsql, Option.bind_some, hend]
  simp only [typedMember, depthBehind_append, depthBehind_sql, depthBehind_bindText, hfirst,
    hmiddle, hlast, Option.bind_some]

theorem expression_floatMember (field : String) :
    Expression (floatMember field) [.text field, .text field] where
  toBinds := binds_typedMember field (by decide) (by decide)
  level := level_typedMember field (fun _ => rfl) fun _ => rfl

theorem expression_numericMember (field : String) :
    Expression (numericMember field) [.text field, .text field] where
  toBinds := binds_typedMember field (by decide) (by decide)
  level := level_typedMember field (fun _ => rfl) fun _ => rfl

theorem expression_textMember (field : String) :
    Expression (textMember field) [.text field, .text field] where
  toBinds := binds_typedMember field (by decide) (by decide)
  level := level_typedMember field (fun _ => rfl) fun _ => rfl

/-- An equality is an expression in parentheses. -/
theorem exists_equality (field : String) (literal : Literal) :
    ∃ inner, equality field literal = sql "(" ++ inner ++ sql ")" ∧
      Expression inner (equalityValues field literal) := by
  have hequals : Expression (sql " = ") [] := .sql (by decide) fun _ => rfl
  cases literal with
  | text s =>
    refine ⟨_, rfl, ?_⟩
    have hmember : Expression (sql "doc -> " ++ bindText field) [.text field] :=
      (Expression.sql (by decide) fun _ => rfl).append (.bind (.text field))
    exact
      { toBinds := ((hmember.toBinds.append (.sql (by decide))).append (.bind (.text s))).append
          (.sql (by decide))
        level := fun _ => rfl }
  | float x =>
    exact ⟨_, rfl, ((expression_floatMember field).append hequals).append (.bind (.float8 x))⟩
  | int i =>
    exact ⟨_, rfl, ((expression_numericMember field).append hequals).append (.bind (.int8 i))⟩

/-- An equality binds its values. -/
theorem expression_equality (field : String) (literal : Literal) :
    Expression (equality field literal) (equalityValues field literal) := by
  obtain ⟨inner, hinner, hexpression⟩ := exists_equality field literal
  rw [hinner]
  exact hexpression.inParentheses

/-- A comparison binds its values. -/
theorem expression_comparison (field : String) {operator : String}
    (h : Expression (sql (" " ++ operator ++ " ")) []) (literal : Literal) :
    Expression (comparison field operator literal) (comparisonValues field literal) := by
  cases literal with
  | text s => exact ((expression_textMember field).append h).append (.bind (.text s))
  | float x => exact ((expression_floatMember field).append h).append (.bind (.float8 x))
  | int i => exact ((expression_numericMember field).append h).append (.bind (.int8 i))

/-- The comparisons of a range bind the values of its bounds. -/
theorem expression_comparisons (field : String) (bounds : Range) :
    List.Forall₂ Expression (comparisons field bounds)
      ((bounds.gt.toList ++ bounds.lt.toList).map (comparisonValues field)) := by
  have hgt (low : Literal) : Expression (comparison field ">" low) (comparisonValues field low) :=
    expression_comparison field (.sql (by decide) fun _ => rfl) low
  have hlt (high : Literal) :
      Expression (comparison field "<" high) (comparisonValues field high) :=
    expression_comparison field (.sql (by decide) fun _ => rfl) high
  obtain ⟨gt, lt⟩ := bounds
  cases gt with
  | none =>
    cases lt with
    | none => exact .nil
    | some high => exact .cons (hlt high) .nil
  | some low =>
    cases lt with
    | none => exact .cons (hgt low) .nil
    | some high => exact .cons (hgt low) (.cons (hlt high) .nil)

/-! ### Conditions and filters -/

/-- What a condition is as a term of a conjunction: a constant if it is settled for all documents, and
one expression in parentheses otherwise. -/
def IsTerm (cond : Condition) (term : String) : Prop :=
  match cond with
  | .oneOf [] => term = "FALSE"
  | .range ⟨none, none⟩ => term = "TRUE"
  | .eq _ => Parenthesised term
  | .oneOf (_ :: _) => Parenthesised term
  | .range _ => Parenthesised term

/-- A condition binds its values and is a term. -/
theorem binds_condition (field : String) (cond : Condition) :
    Binds (condition field cond) (conditionValues field cond) ∧
      ∀ number, IsTerm cond (rendered number (condition field cond)) := by
  cases cond with
  | eq literal =>
    obtain ⟨inner, hinner, hexpression⟩ := exists_equality field literal
    rw [condition, hinner]
    exact ⟨hexpression.inParentheses.toBinds, hexpression.level.parenthesised⟩
  | oneOf literals =>
    cases literals with
    | nil => exact ⟨.sql (by decide), fun number => rendered_sql number "FALSE"⟩
    | cons first others =>
      have hor : Expression (sql " OR ") [] := .sql (by decide) fun _ => rfl
      have hlist : Expression (separated " OR " ((first :: others).map (equality field)))
          ((first :: others).flatMap (equalityValues field)) := by
        rw [List.flatMap_def]
        refine .separated hor ?_
        rw [List.forall₂_map_left_iff, List.forall₂_map_right_iff]
        exact List.forall₂_same.mpr fun literal _ => expression_equality field literal
      exact ⟨hlist.inParentheses.toBinds, hlist.level.parenthesised⟩
  | range bounds =>
    have hand : Expression (sql " AND ") [] := .sql (by decide) fun _ => rfl
    have hlist : Expression (separated " AND " (comparisons field bounds))
        ((bounds.gt.toList ++ bounds.lt.toList).flatMap (comparisonValues field)) := by
      rw [List.flatMap_def]
      exact .separated hand (expression_comparisons field bounds)
    obtain ⟨gt, lt⟩ := bounds
    cases gt with
    | none =>
      cases lt with
      | none => exact ⟨.sql (by decide), fun number => rendered_sql number "TRUE"⟩
      | some high => exact ⟨hlist.inParentheses.toBinds, hlist.level.parenthesised⟩
    | some low => exact ⟨hlist.inParentheses.toBinds, hlist.level.parenthesised⟩

/-- The clauses of a filter bind their values one after the other. -/
theorem binds_conjunction (filter : Filter) : Binds (conjunction filter) (filterValues filter) := by
  obtain ⟨clauses⟩ := filter
  cases clauses with
  | nil => exact .sql (by decide)
  | cons first others =>
    exact .separated_map (by decide) (first :: others) fun clause =>
      (binds_condition clause.1 clause.2).1

/-- The texts of fragments made from items are the texts of the fragments, each from some number. -/
theorem forall₂_renderedEach {α : Type} (items : List α) (fragment : α → List Piece)
    (number : Nat) : List.Forall₂ (fun item text => ∃ start, text = rendered start (fragment item))
      items (renderedEach number (items.map fragment)) := by
  induction items generalizing number with
  | nil => exact .nil
  | cons item rest ih => exact .cons ⟨number, rfl⟩ (ih _)

/-- The condition of a statement: a constant without clauses, else one term for each clause. -/
theorem exists_terms (filter : Filter) (number : Nat) :
    ∃ terms, List.Forall₂ (fun clause term => IsTerm clause.2 term) filter.clauses terms ∧
      rendered number (conjunction filter) =
        if terms = [] then "TRUE" else " AND ".intercalate terms := by
  obtain ⟨clauses⟩ := filter
  cases clauses with
  | nil => exact ⟨[], .nil, rendered_sql number "TRUE"⟩
  | cons first others =>
    let fragment : String × Condition → List Piece := fun (field, cond) => condition field cond
    refine ⟨renderedEach number ((first :: others).map fragment), ?_, ?_⟩
    · refine (forall₂_renderedEach (first :: others) fragment number).imp ?_
      rintro ⟨field, cond⟩ term ⟨start, rfl⟩
      exact (binds_condition field cond).2 start
    · have htext := rendered_separated " AND " number ((first :: others).map fragment)
      exact htext.trans (if_neg (List.cons_ne_nil _ _)).symm

/-! ### Groups -/

/-- A text that ends with a number is inert if it is so without the number. -/
theorem inert_append_number {text : String} (h : Inert text) (hne : text ≠ "") (number : Nat) :
    Inert (text ++ toString number) := by
  refine h.append hne ?_
  rw [Nat.toString_eq_repr, Nat.toList_repr]
  exact dollar_not_mem_toDigits number

/-- The members of a row bind the outputs. -/
theorem binds_rowMembers (sums : List SumField) (place : Nat) :
    Binds (rowMembers place sums) (sums.map fun sum => .text sum.output) := by
  induction sums generalizing place with
  | nil => exact ⟨List.forall_mem_nil _, rfl⟩
  | cons sum rest ih =>
    have hcomma : Binds (sql ", ") [] := .sql (by decide)
    have hname : Inert s!"::text, g.s{place}" := inert_append_number (by decide) (by decide) place
    exact ((hcomma.append (.bind _)).append (.sql hname)).append (ih (place + 1))

/-- The sums of the subquery bind each summed member twice. -/
theorem binds_sumColumns (sums : List SumField) (place : Nat) :
    Binds (sumColumns place sums)
      (sums.flatMap fun sum => [.text sum.source, .text sum.source]) := by
  induction sums generalizing place with
  | nil => exact ⟨List.forall_mem_nil _, rfl⟩
  | cons sum rest ih =>
    have hsum : Binds (sql ", COALESCE(SUM(") [] := .sql (by decide)
    have hname : Inert s!"), 0) AS s{place}" := inert_append_number (by decide) (by decide) place
    have hmember := (expression_floatMember sum.source).toBinds
    exact ((hsum.append hmember).append (.sql hname)).append (ih (place + 1))

/-! ### Batches -/

/-- The rows of a batch bind its documents. -/
theorem binds_rows (docs : List Document) :
    Binds (separated ", " (docs.map fun doc => sql "(" ++ [.bind (.jsonb doc)] ++ sql ")"))
      (batchValues docs) := by
  have hrow (doc : Document) :
      Binds (sql "(" ++ [.bind (.jsonb doc)] ++ sql ")") [.jsonb doc] :=
    (Expression.bind (.jsonb doc)).inParentheses.toBinds
  have hrows := Binds.separated_map (show Inert ", " by decide) docs hrow
  rwa [← List.map_eq_flatMap] at hrows

/-! ### Statements -/

/-- A statement whose placeholders are numbered from one without a gap, for given values. -/
structure Aligned (statement : Statement) (values : List Binding) : Prop where
  bindings : statement.bindings = values
  placeholders : placeholders statement.text.toList = List.range' 1 values.length

/-- Pieces that bind values make a statement with aligned placeholders. -/
theorem Binds.aligned {pieces : List Piece} {values : List Binding} (h : Binds pieces values) :
    Aligned ⟨pieces⟩ values where
  bindings := h.values_eq
  placeholders := by
    rw [text_eq_rendered, placeholders_rendered h.inert, h.values_eq]

/-- A proper name in quotation marks holds no dollar sign. -/
theorem dollar_not_mem_quotedTable {table : String} (h : Collection.isName table.toList = true) :
    '$' ∉ (quotedTable table).toList := by
  have hname : '$' ∉ table.toList := by
    intro hmem
    have hpart := Collection.isPart_of_mem h hmem
    exact absurd hpart (by decide)
  rw [quotedTable, String.toList_append, String.toList_append, List.mem_append, List.mem_append]
  exact not_or.mpr ⟨not_or.mpr ⟨by decide, hname⟩, by decide⟩

section

variable {table : String}

/-- A text around a proper name in quotation marks is inert if it begins as such. -/
theorem inert_around_table (h : Collection.isName table.toList = true) {before after : String}
    (hbefore : Inert before) (hne : before ≠ "") (hafter : '$' ∉ after.toList) :
    Inert (before ++ quotedTable table ++ after) := by
  rw [String.append_assoc]
  refine hbefore.append hne ?_
  rw [String.toList_append, List.mem_append]
  exact not_or.mpr ⟨dollar_not_mem_quotedTable h, hafter⟩

/-- The statement of a filter binds the values of its clauses. -/
theorem aligned_selectStatement (h : Collection.isName table.toList = true) (filter : Filter) :
    Aligned (selectStatement table filter) (filterValues filter) := by
  have hselect : Inert ("SELECT doc FROM " ++ quotedTable table ++ " WHERE ") :=
    inert_around_table h (by decide) (by decide) (by decide)
  have horder : Binds (sql " ORDER BY seq") [] := .sql (by decide)
  have hall := ((Binds.sql hselect).append (binds_conjunction filter)).append horder
  rw [List.nil_append, List.append_nil] at hall
  exact hall.aligned

/-- The condition of the statement of a filter is a constant or one term for each clause. -/
theorem exists_terms_selectStatement (table : String) (filter : Filter) :
    ∃ terms, List.Forall₂ (fun clause term => IsTerm clause.2 term) filter.clauses terms ∧
      (selectStatement table filter).text = "SELECT doc FROM " ++ ("\"" ++ table ++ "\"") ++
        " WHERE " ++ (if terms = [] then "TRUE" else " AND ".intercalate terms) ++
          " ORDER BY seq" := by
  obtain ⟨terms, hterms, htext⟩ := exists_terms filter 1
  refine ⟨terms, hterms, ?_⟩
  rw [selectStatement, text_eq_rendered, rendered_append, rendered_append, rendered_sql,
    rendered_sql, boundValues_sql, ← htext]
  rfl

/-- The statement of a group stage binds its names and its members. -/
theorem aligned_groupStatement (h : Collection.isName table.toList = true) (stage : GroupStage) :
    Aligned (groupStatement table stage) (groupValues stage) := by
  have hbuild : Binds (sql "SELECT jsonb_build_object(") [] := .sql (by decide)
  have hkey : Binds (sql "::text, g.key") [] := .sql (by decide)
  have hfrom : Binds (sql ") AS doc FROM (SELECT doc -> ") [] := .sql (by decide)
  have hfirst : Binds (sql " AS key, MIN(seq) AS first_seq") [] := .sql (by decide)
  have htable : Inert (" FROM " ++ quotedTable table ++ " GROUP BY 1) g ORDER BY g.first_seq") :=
    inert_around_table h (by decide) (by decide) (by decide)
  have hrow := ((hbuild.append (.bind (.text GroupStage.keyOutput))).append hkey).append
    (binds_rowMembers stage.sums 0)
  have hgrouped := ((hrow.append hfrom).append (.bind (.text stage.key))).append hfirst
  have hall := (hgrouped.append (binds_sumColumns stage.sums 0)).append (.sql htable)
  have hgroup : Binds (groupStatement table stage).pieces (groupValues stage) :=
    ⟨hall.inert, hall.values_eq.trans (by simp [groupValues])⟩
  exact hgroup.aligned

/-- A pipeline of at most one stage has a statement, and it binds the values of the stage. -/
theorem exists_aligned_pipelineStatement (h : Collection.isName table.toList = true)
    {pipeline : Pipeline} (hstages : pipeline.stages.length ≤ 1) :
    ∃ statement, pipelineStatement table pipeline = .ok statement ∧
      Aligned statement (pipelineValues pipeline) := by
  obtain ⟨stages⟩ := pipeline
  match stages, hstages with
  | [], _ => exact ⟨_, rfl, aligned_selectStatement h .empty⟩
  | [stage], _ =>
    refine ⟨_, rfl, ?_⟩
    rw [pipelineValues, List.flatMap_singleton]
    exact aligned_groupStatement h stage

/-- The statement of a batch binds its documents. -/
theorem aligned_insertStatement (h : Collection.isName table.toList = true)
    (docs : List Document) : Aligned (insertStatement table docs) (batchValues docs) := by
  have hinsert : Inert ("INSERT INTO " ++ quotedTable table ++ " (doc) VALUES ") :=
    inert_around_table h (by decide) (by decide) (by decide)
  exact ((Binds.sql hinsert).append (binds_rows docs)).aligned

end

/-- In the statement of every request the placeholders are numbered from one without a gap, and they
stand for the values of the request in their order. The condition of a filter is a constant or one
term for each clause. -/
theorem statements_aligned {table : String} (h : Collection.validate table = .ok table) :
    (∀ filter : Filter, Aligned (selectStatement table filter) (filterValues filter) ∧
      ∃ terms, List.Forall₂ (fun clause term => IsTerm clause.2 term) filter.clauses terms ∧
        (selectStatement table filter).text = "SELECT doc FROM " ++ ("\"" ++ table ++ "\"") ++
          " WHERE " ++ (if terms = [] then "TRUE" else " AND ".intercalate terms) ++
            " ORDER BY seq") ∧
    (∀ pipeline : Pipeline, pipeline.stages.length ≤ 1 →
      ∃ statement, pipelineStatement table pipeline = .ok statement ∧
        Aligned statement (pipelineValues pipeline)) ∧
    ∀ docs : List Document, docs ≠ [] →
      Aligned (insertStatement table docs) (batchValues docs) := by
  have hname := Collection.isName_of_validate h
  refine ⟨fun filter => ?_, fun pipeline hstages => ?_, fun docs _ => ?_⟩
  · exact ⟨aligned_selectStatement hname filter, exists_terms_selectStatement table filter⟩
  · exact exists_aligned_pipelineStatement hname hstages
  · exact aligned_insertStatement hname docs

/-- An alternative of two texts, a bound and an alternative of nothing bind seven values, and the
second of two documents in a batch is the second value. -/
theorem statements_aligned_alternatives :
    let filter : Filter := ⟨[("item_id", .oneOf [.text "a", .text "b"]),
      ("upc", .range ⟨some (.int 5), none⟩), ("name", .oneOf [])]⟩
    let docs : List Document := [⟨[("name", .string "Kiwi")]⟩, ⟨[]⟩]
    Collection.validate "metric" = .ok "metric" ∧
      (selectStatement "metric" filter).bindings = [.text "item_id", .text "a", .text "item_id",
        .text "b", .text "upc", .text "upc", .int8 5] ∧
      placeholders (selectStatement "metric" filter).text.toList = [1, 2, 3, 4, 5, 6, 7] ∧
      docs ≠ [] ∧ placeholders (insertStatement "metric" docs).text.toList = [1, 2] := by
  intro filter docs
  have hname : Collection.validate "metric" = .ok "metric" := by decide
  have hdocs : docs ≠ [] := List.cons_ne_nil _ _
  obtain ⟨hfind, -, hinsert⟩ := statements_aligned hname
  have hfilter := (hfind filter).1
  exact ⟨hname, hfilter.bindings, hfilter.placeholders, hdocs, (hinsert docs hdocs).placeholders⟩

end Stockroom.Postgres
