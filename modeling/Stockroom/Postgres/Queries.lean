import Stockroom.Postgres.Statement
import Stockroom.Query.Filter
import Stockroom.Query.Pipeline
import Stockroom.Store.Collection

/-!
# Requests as statements

A collection is a table with a sequence number and one document in each row. Filters become
conditions on members of the document, and a group stage becomes a grouped subquery. The name of the
table is the only text of a statement that is not fixed.
-/

namespace Stockroom.Postgres

/-- A piece of fixed text. -/
def sql (text : String) : List Piece :=
  [.sql text]

/-- A piece that binds a text. -/
def bindText (value : String) : List Piece :=
  [.bind (.text value)]

/-- A table name in quotation marks. -/
def quotedTable (table : String) : String :=
  "\"" ++ table ++ "\""

/-- Fragments with a separator between them. -/
def separated (separator : String) : List (List Piece) → List Piece
  | [] => []
  | [fragment] => fragment
  | fragment :: rest => fragment ++ sql separator ++ separated separator rest

/-- A member of the document as a value of an SQL type, null if it has another JSON type. -/
def typedMember (field jsonType sqlType : String) : List Piece :=
  sql "(CASE WHEN jsonb_typeof(doc -> " ++ bindText field ++
    sql (") = '" ++ jsonType ++ "' THEN (doc ->> ") ++ bindText field ++
    sql (")::" ++ sqlType ++ " END)")

/-- A number of the document in double precision. -/
def floatMember (field : String) : List Piece :=
  typedMember field "number" "float8"

/-- A number of the document, exact. -/
def numericMember (field : String) : List Piece :=
  typedMember field "number" "numeric"

/-- A text of the document. -/
def textMember (field : String) : List Piece :=
  typedMember field "string" "text"

/-- Equality of a member with a literal. -/
def equality (field : String) (literal : Literal) : List Piece :=
  sql "(" ++
    (match literal with
      | .text s =>
        sql "doc -> " ++ bindText field ++ sql " = to_jsonb(" ++ bindText s ++ sql "::text)"
      | .float x => floatMember field ++ sql " = " ++ [.bind (.float8 x)]
      | .int i => numericMember field ++ sql " = " ++ [.bind (.int8 i)]) ++
    sql ")"

/-- The comparison of a member with one bound of a range. -/
def comparison (field operator : String) (literal : Literal) : List Piece :=
  match literal with
  | .text s => textMember field ++ sql (" " ++ operator ++ " ") ++ bindText s
  | .float x => floatMember field ++ sql (" " ++ operator ++ " ") ++ [.bind (.float8 x)]
  | .int i => numericMember field ++ sql (" " ++ operator ++ " ") ++ [.bind (.int8 i)]

/-- The comparisons with the bounds that there are. -/
def comparisons (field : String) (bounds : Range) : List (List Piece) :=
  (bounds.gt.map (comparison field ">")).toList ++ (bounds.lt.map (comparison field "<")).toList

/-- A condition on a member. -/
def condition (field : String) : Condition → List Piece
  | .eq literal => equality field literal
  | .oneOf [] => sql "FALSE"
  | .oneOf literals => sql "(" ++ separated " OR " (literals.map (equality field)) ++ sql ")"
  | .range ⟨none, none⟩ => sql "TRUE"
  | .range bounds => sql "(" ++ separated " AND " (comparisons field bounds) ++ sql ")"

/-- The conjunction of the clauses of a filter. -/
def conjunction (filter : Filter) : List Piece :=
  match filter.clauses with
  | [] => sql "TRUE"
  | clauses => separated " AND " (clauses.map fun (field, cond) => condition field cond)

/-- The statement that finds the documents of a filter. -/
def selectStatement (table : String) (filter : Filter) : Statement :=
  ⟨sql ("SELECT doc FROM " ++ quotedTable table ++ " WHERE ") ++ conjunction filter ++
    sql " ORDER BY seq"⟩

/-- The members of the row that a group becomes; the sums are numbered from the given place on. -/
def rowMembers : (place : Nat) → List SumField → List Piece
  | _, [] => []
  | place, sum :: rest =>
    sql ", " ++ bindText sum.output ++ sql s!"::text, g.s{place}" ++ rowMembers (place + 1) rest

/-- The sums of the subquery, numbered from the given place on. -/
def sumColumns : (place : Nat) → List SumField → List Piece
  | _, [] => []
  | place, sum :: rest =>
    sql ", COALESCE(SUM(" ++ floatMember sum.source ++ sql s!"), 0) AS s{place}" ++
      sumColumns (place + 1) rest

/-- The statement of one group stage. -/
def groupStatement (table : String) (stage : GroupStage) : Statement :=
  ⟨sql "SELECT jsonb_build_object(" ++ bindText GroupStage.keyOutput ++ sql "::text, g.key" ++
    rowMembers 0 stage.sums ++ sql ") AS doc FROM (SELECT doc -> " ++ bindText stage.key ++
    sql " AS key, MIN(seq) AS first_seq" ++ sumColumns 0 stage.sums ++
    sql (" FROM " ++ quotedTable table ++ " GROUP BY 1) g ORDER BY g.first_seq")⟩

/-- The statement of a pipeline of at most one stage. -/
def pipelineStatement (table : String) (pipeline : Pipeline) : Stored Statement :=
  match pipeline.stages with
  | [] => .ok (selectStatement table Filter.empty)
  | [stage] => .ok (groupStatement table stage)
  | _ => .error (.query ("aggregate: unsupported pipeline " ++ pipeline.text))

/-- The statement that appends documents. -/
def insertStatement (table : String) (docs : List Document) : Statement :=
  ⟨sql ("INSERT INTO " ++ quotedTable table ++ " (doc) VALUES ") ++
    separated ", " (docs.map fun doc => sql "(" ++ [.bind (.jsonb doc)] ++ sql ")")⟩

/-- The statement that creates the table of a collection unless it is there. -/
def createStatement (table : String) : Statement :=
  ⟨sql ("CREATE TABLE IF NOT EXISTS " ++ quotedTable table ++
    " (seq BIGSERIAL PRIMARY KEY, doc JSONB NOT NULL)")⟩

end Stockroom.Postgres
