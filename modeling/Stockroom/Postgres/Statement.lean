import Stockroom.Document.Basic

/-!
# Statements with bound values

A statement is a row of pieces: fixed text and values. Its text shows each value as a placeholder
with the place of the value among all values, so text and values cannot fall out of step. What a
caller supplies is always a value, never text.
-/

namespace Stockroom.Postgres

/-- A value bound to a placeholder. -/
inductive Binding
  | text (value : String)
  | int8 (value : Int64)
  | float8 (value : Double)
  | jsonb (value : Document)
  deriving DecidableEq

/-- A part of a statement. -/
inductive Piece
  | sql (text : String)
  | bind (value : Binding)
  deriving DecidableEq

/-- A statement as the row of its pieces. -/
structure Statement where
  pieces : List Piece
  deriving DecidableEq

namespace Statement

/-- The bound values in their order. -/
def bindings (statement : Statement) : List Binding :=
  statement.pieces.filterMap fun
    | .sql _ => none
    | .bind value => some value

/-- The texts of pieces, the first placeholder having a given number. -/
def renderFrom : (number : Nat) → List Piece → List String
  | _, [] => []
  | number, .sql text :: rest => text :: renderFrom number rest
  | number, .bind _ :: rest => s!"${number}" :: renderFrom (number + 1) rest

/-- The text of the statement. -/
def text (statement : Statement) : String :=
  String.join (renderFrom 1 statement.pieces)

end Statement

end Stockroom.Postgres
