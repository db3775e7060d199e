import Stockroom.Json.Basic
import Stockroom.Text.Quoted

/-!
# Literals

A literal is what a stored value is compared with: a text, a double or a signed word.
-/

namespace Stockroom

/-- The operand of a comparison. -/
inductive Literal
  | text (value : String)
  | float (value : Double)
  | int (value : Int64)
  deriving DecidableEq

namespace Literal

/-- The JSON form; a double that is not finite becomes `null`. -/
def toJson : Literal → Json
  | text s => .string s
  | float x => .ofDouble x
  | int i => .ofInt64 i

/-- The literal of a text or a number. A number that is no signed word becomes a double. -/
def ofJson? : Json → Option Literal
  | .string s => some (text s)
  | .number n =>
    match n.toInt64? with
    | some i => some (int i)
    | none => some (float n.toDouble)
  | _ => none

/-- The double of a number, nothing for a text. -/
def toDouble? : Literal → Option Double
  | text _ => none
  | float x => some x
  | int i => some (.ofInt i.toInt)

/-- Doubles in diagnostics are written without an exponent while the leading digit stands between
the fourth place after the point and the sixteenth before it. -/
def floatStyle : Double.Style := ⟨-4, 15, "", false⟩

/-- The literal as a diagnostic shows it. -/
def debugText : Literal → String
  | text s => "Text(" ++ Text.quoted s ++ ")"
  | float x => "Float(" ++ floatStyle.ofDouble x ++ ")"
  | int i => "Int(" ++ toString i.toInt ++ ")"

end Literal

end Stockroom
