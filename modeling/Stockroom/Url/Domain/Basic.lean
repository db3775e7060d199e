import Stockroom.Url.Domain.Mapping
import Stockroom.Url.Domain.Direction
import Stockroom.Url.Domain.Joining
import Stockroom.Url.Punycode

/-!
# Domain names

A name is a row of labels with points between them. Each character is first brought to the form that
names have. A label then stands for itself or, after `xn--`, for a text in Punycode, and this text
has to follow the rules for marks, joiners and directions.
-/

namespace Stockroom.Url.Domain

/-- Whether the form that a name has for a character begins with a mark. The iota below a letter
becomes a letter; two vowels and the halfwidth sound marks become texts that begin with a mark. -/
def isMark (c : Char) : Bool :=
  (Text.extending.contains c && c != '\u0345') || Text.spacing.contains c ||
    "\u0e33\u0eb3\uff9e\uff9f".toList.contains c

/-- The most characters of a label beyond ASCII. -/
def maxLength : Nat := 1000

/-- The most characters of a label in Punycode. -/
def maxEncodedLength : Nat := 2000

/-- What a label stands for. A label in Punycode stands for a text that is not all in ASCII and that
has the form of names already. -/
def decodeLabel? (label : List Char) : Option (List Char) :=
  match label with
  | 'x' :: 'n' :: '-' :: '-' :: encoded =>
    if encoded.length ≤ maxEncodedLength then
      (Punycode.decode? encoded).filter fun text =>
        text.any (128 ≤ ·.toNat) && text.all isSettled
    else none
  | _ =>
    if label.any (128 ≤ ·.toNat) && maxLength < label.length then none else some label

/-- Whether what a label stands for follows the rules for marks and joiners. -/
def isWellFormed (label : List Char) : Bool :=
  (label.head?.all fun c => !isMark c) && joinersSeen [] label

/-- The labels of a name in the form that names have, if each of them follows the rules. -/
def labels? (cs : List Char) : Option (List (List Char)) := do
  let labels := ((← cs.mapM charForm?).flatten).splitOn '.'
  let texts ← labels.mapM decodeLabel?
  if texts.all isWellFormed && (!texts.any (·.any turnsDirection) || texts.all keepsDirection) then
    some labels
  else none

end Stockroom.Url.Domain
