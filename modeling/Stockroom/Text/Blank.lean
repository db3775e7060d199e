import Stockroom.Text.CharClass

/-!
# Blank characters

Blanks are the characters with the Unicode property White_Space. Trimming removes them from both
ends of a text, so that the zero-width space and the byte order mark stay.
-/

namespace Stockroom.Text

/-- The characters with the Unicode property White_Space. -/
def blank : CharClass := ⟨
  [(0x9, 0xd), (0x20, 0x20), (0x85, 0x85), (0xa0, 0xa0), (0x1680, 0x1680), (0x2000, 0x200a),
   (0x2028, 0x2029), (0x202f, 0x202f), (0x205f, 0x205f), (0x3000, 0x3000)]⟩

/-- The characters of a text without the blanks at its start. -/
def trimStart (cs : List Char) : List Char :=
  cs.dropWhile blank.contains

/-- The characters of a text without the blanks at both ends. -/
def trimChars (cs : List Char) : List Char :=
  (trimStart (trimStart cs).reverse).reverse

/-- A text without the blanks at both ends. -/
def trim (s : String) : String :=
  String.ofList (trimChars s.toList)

end Stockroom.Text
