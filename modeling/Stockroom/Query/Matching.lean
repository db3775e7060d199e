import Stockroom.Query.Filter

/-!
# Which documents satisfy a filter

A condition looks at one member of a document, an absent member counting as `null`. Texts are
compared with texts and numbers with numbers; all other pairs are neither equal nor in any order.
-/

namespace Stockroom

namespace Literal

/-- Whether a stored value equals the literal. A signed word is compared with a signed word exactly
and with any other number as a double. -/
def equals (literal : Literal) (found : Json) : Bool :=
  match literal, found with
  | text s, .string t => s == t
  | int i, .number n =>
    match n.toInt64? with
    | some j => i == j
    | none => n.toDouble.equals (.ofInt i.toInt)
  | float x, .number n => n.toDouble.equals x
  | _, _ => false

/-- The order of a stored value against the literal. Texts are ordered by their code points and
numbers as doubles. -/
def compareFound (literal : Literal) (found : Json) : Option Ordering :=
  match literal, found with
  | text s, .string t => some (compare t s)
  | text _, _ => none
  | numeric, .number n => numeric.toDouble?.bind n.toDouble.compare?
  | _, _ => none

end Literal

/-- Whether a stored value lies strictly between the bounds that there are. -/
def Range.contains (bounds : Range) (found : Json) : Bool :=
  bounds.gt.all (fun gt => gt.compareFound found == some .gt) &&
    bounds.lt.all (fun lt => lt.compareFound found == some .lt)

/-- Whether a stored value satisfies the condition. -/
def Condition.accepts (condition : Condition) (found : Json) : Bool :=
  match condition with
  | eq literal => literal.equals found
  | oneOf literals => literals.any fun literal => literal.equals found
  | range bounds => bounds.contains found

/-- Whether a document satisfies every clause of the filter. -/
def Filter.accepts (filter : Filter) (doc : Document) : Bool :=
  filter.clauses.all fun (field, condition) => condition.accepts ((doc.get? field).getD .null)

end Stockroom
