import Stockroom.Text.Unprintable
import Stockroom.Text.Extending

/-!
# Quoted texts

Diagnostics show a text between quotation marks. Inside, the quotation mark and the backslash are
escaped, and every character that could not be seen in place is shown by name or by code point.
-/

namespace Stockroom.Text

/-- A code point in lower-case hexadecimal digits. -/
def hexCode (c : Char) : List Char :=
  Nat.toDigits 16 c.toNat

/-- One character inside quotation marks. -/
def quotedChar (c : Char) : List Char :=
  match c with
  | '"' => ['\\', '"']
  | '\\' => ['\\', '\\']
  | '\n' => ['\\', 'n']
  | '\r' => ['\\', 'r']
  | '\t' => ['\\', 't']
  | '\x00' => ['\\', '0']
  | c =>
    if extending.contains c || unprintable.contains c then
      ['\\', 'u', '\x7b'] ++ hexCode c ++ ['\x7d']
    else [c]

/-- A text between quotation marks. -/
def quoted (s : String) : String :=
  String.ofList ('"' :: s.toList.flatMap quotedChar ++ ['"'])

end Stockroom.Text
