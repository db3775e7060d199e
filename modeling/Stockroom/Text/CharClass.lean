/-!
# Character classes

A class of characters is a table of ranges of code points. The ranges of a table are disjoint and
ascending, so that a search ends at the first range above the character.
-/

namespace Stockroom.Text

/-- A class of characters given by the ascending ranges of its code points. -/
structure CharClass where
  ranges : List (Nat × Nat)

namespace CharClass

/-- Whether a code point lies in one of the ascending ranges. -/
def search (code : Nat) : List (Nat × Nat) → Bool
  | [] => false
  | (first, last) :: rest =>
    if code < first then false
    else if code ≤ last then true
    else search code rest

/-- Whether a character belongs to the class. -/
def contains (cls : CharClass) (c : Char) : Bool :=
  search c.toNat cls.ranges

end CharClass

end Stockroom.Text
