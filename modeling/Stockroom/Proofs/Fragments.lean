import Stockroom.Postgres.Queries

/-!
# Fragments of statements

A statement is put together from rows of pieces. The values that a row binds and the text that it
becomes are those of its parts in their order, where the placeholders of a part are numbered on from
those before it. So fragments with a separator between them become their texts with the separator
between them.
-/

namespace Stockroom.Postgres

/-- The values that pieces bind, in their order. -/
def boundValues (pieces : List Piece) : List Binding :=
  (⟨pieces⟩ : Statement).bindings

/-- The text of pieces, the first placeholder having a given number. -/
def rendered (number : Nat) (pieces : List Piece) : String :=
  String.join (Statement.renderFrom number pieces)

/-- The texts of fragments in a row, their placeholders numbered on from one to the next. -/
def renderedEach : (number : Nat) → List (List Piece) → List String
  | _, [] => []
  | number, fragment :: rest =>
    rendered number fragment :: renderedEach (number + (boundValues fragment).length) rest

/-! ### Bound values -/

@[simp] theorem boundValues_nil : boundValues [] = [] := rfl

@[simp] theorem boundValues_append (left right : List Piece) :
    boundValues (left ++ right) = boundValues left ++ boundValues right :=
  List.filterMap_append ..

@[simp] theorem boundValues_sql (text : String) : boundValues (sql text) = [] := rfl

@[simp] theorem boundValues_bind (value : Binding) : boundValues [.bind value] = [value] := rfl

theorem separated_cons_cons (separator : String) (first second : List Piece)
    (rest : List (List Piece)) : separated separator (first :: second :: rest) =
      first ++ sql separator ++ separated separator (second :: rest) := rfl

/-! ### Texts -/

@[simp] theorem rendered_nil (number : Nat) : rendered number [] = "" := rfl

@[simp] theorem rendered_sql (number : Nat) (text : String) : rendered number (sql text) = text := by
  simp [rendered, sql, Statement.renderFrom]

/-- A statement is its pieces, numbered from one. -/
theorem text_eq_rendered (pieces : List Piece) :
    (⟨pieces⟩ : Statement).text = rendered 1 pieces := rfl

/-- The text of a first piece stands before the text of the others. -/
theorem rendered_cons (number : Nat) (piece : Piece) (rest : List Piece) :
    rendered number (piece :: rest) =
      rendered number [piece] ++ rendered (number + (boundValues [piece]).length) rest := by
  cases piece <;> simp [rendered, Statement.renderFrom, boundValues, Statement.bindings]

/-- The text of a row stands before the text of what follows it, which is numbered on from it. -/
theorem rendered_append (number : Nat) (left right : List Piece) :
    rendered number (left ++ right) =
      rendered number left ++ rendered (number + (boundValues left).length) right := by
  induction left generalizing number with
  | nil => simp
  | cons piece rest ih =>
    have hlength : (boundValues (piece :: rest)).length =
        (boundValues [piece]).length + (boundValues rest).length := by
      rw [← List.singleton_append, boundValues_append, List.length_append]
    rw [List.cons_append, rendered_cons, rendered_cons number piece rest, ih, hlength,
      String.append_assoc, Nat.add_assoc]

/-- Fragments with a separator between them become their texts with the separator between them. -/
theorem rendered_separated (separator : String) (number : Nat) (fragments : List (List Piece)) :
    rendered number (separated separator fragments) =
      separator.intercalate (renderedEach number fragments) := by
  induction fragments generalizing number with
  | nil => simp [separated, renderedEach]
  | cons fragment rest ih =>
    cases rest with
    | nil => simp [separated, renderedEach]
    | cons next rest =>
      rw [separated_cons_cons, rendered_append, rendered_append, rendered_sql, ih,
        boundValues_append, boundValues_sql, List.append_nil]
      simp only [renderedEach, String.intercalate_cons_cons]

end Stockroom.Postgres
