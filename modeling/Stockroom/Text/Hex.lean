/-!
# Hexadecimal digits

Digits are read in either letter case and written in lower case. `hexDigits` writes a fixed number
of digits, so that equal widths make the digits of a number unique.
-/

namespace Stockroom.Text

/-- The value of a hexadecimal digit in either letter case. -/
def hexValue? (c : Char) : Option Nat :=
  if '0' ≤ c ∧ c ≤ '9' then some (c.toNat - '0'.toNat)
  else if 'a' ≤ c ∧ c ≤ 'f' then some (c.toNat - 'a'.toNat + 10)
  else if 'A' ≤ c ∧ c ≤ 'F' then some (c.toNat - 'A'.toNat + 10)
  else none

/-- Whether a character is a hexadecimal digit. -/
def isHexDigit (c : Char) : Bool :=
  (hexValue? c).isSome

/-- The number that a row of hexadecimal digits writes, nothing if another character occurs. -/
def readHex? (cs : List Char) : Option Nat :=
  cs.foldlM (fun value c => (hexValue? c).map (value * 16 + ·)) 0

/-- The last `count` hexadecimal digits of a number. -/
def hexDigits : (count : Nat) → (value : Nat) → List Char
  | 0, _ => []
  | count + 1, value => hexDigits count (value / 16) ++ [Nat.digitChar (value % 16)]

end Stockroom.Text
