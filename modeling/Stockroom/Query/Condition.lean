import Stockroom.Query.Literal

/-!
# Conditions

A condition is what one field has to satisfy: equality with a literal, equality with one of several,
or a place in an open range.
-/

namespace Stockroom

/-- An open interval; a missing bound does not bound. -/
structure Range where
  gt : Option Literal
  lt : Option Literal
  deriving DecidableEq

/-- What one field has to satisfy. Equality with one of no literals is satisfied by nothing. -/
inductive Condition
  | eq (literal : Literal)
  | oneOf (literals : List Literal)
  | range (bounds : Range)
  deriving DecidableEq

/-- The bounds as diagnostics show them. -/
def Range.debugText (bounds : Range) : String :=
  let side : Option Literal → String
    | some literal => "Some(" ++ literal.debugText ++ ")"
    | none => "None"
  "Range \x7b gt: " ++ side bounds.gt ++ ", lt: " ++ side bounds.lt ++ " \x7d"

namespace Condition

/-- The JSON form: one member for each operator. -/
def toJson : Condition → Json
  | eq literal => .object [("$eq", literal.toJson)]
  | oneOf literals => .object [("$in", .array (literals.map Literal.toJson))]
  | range ⟨gt, lt⟩ =>
    .object ((gt.map fun literal => ("$gt", literal.toJson)).toList ++
      (lt.map fun literal => ("$lt", literal.toJson)).toList)

/-- The condition as diagnostics show it. -/
def debugText : Condition → String
  | eq literal => "Eq(" ++ literal.debugText ++ ")"
  | oneOf literals => "In([" ++ ", ".intercalate (literals.map Literal.debugText) ++ "])"
  | range bounds => "Range(" ++ bounds.debugText ++ ")"

end Condition

end Stockroom
