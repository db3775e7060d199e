import Stockroom.Store.Deadline

/-!
# Collection names

The name of a collection is also the name of a table, so it is an identifier: an ASCII letter or an
underscore, then letters, digits and underscores, 63 characters at most.
-/

namespace Stockroom.Collection

/-- The greatest length of a name. -/
def maxLength : Nat := 63

/-- Whether a character can start a name. -/
def isStart (c : Char) : Bool :=
  c.isAlpha || c == '_'

/-- Whether a character can stand in a name. -/
def isPart (c : Char) : Bool :=
  c.isAlphanum || c == '_'

/-- Whether the characters form a name. -/
def isName : List Char → Bool
  | [] => false
  | c :: rest => isStart c && rest.all isPart && decide (rest.length < maxLength)

/-- The name, if it is one. -/
def validate (name : String) : Stored String :=
  if isName name.toList then .ok name else .error (.invalidCollection name)

end Stockroom.Collection
