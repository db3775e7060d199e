import Stockroom.Entries
import Stockroom.Json.Basic
import Stockroom.Text.Hex
import Stockroom.Text.Numeral

/-!
# Reading JSON texts

A text is read from its characters to a value and the characters after it. A name that occurs twice
in an object keeps its first place and its last value. Every step of the reader consumes a
character, so a budget of two steps for each character is enough.
-/

namespace Stockroom.Json

/-- The four blanks that may stand between the parts of a JSON text. -/
def isSpace (c : Char) : Bool :=
  c == ' ' || c == '\n' || c == '\r' || c == '\t'

/-- The characters after leading blanks. -/
def skipSpaces (cs : List Char) : List Char :=
  cs.dropWhile isSpace

/-- Four hexadecimal digits and the characters after them. -/
def codeUnit? : List Char → Option (Nat × List Char)
  | a :: b :: c :: d :: rest =>
    (Text.readHex? [a, b, c, d]).map (·, rest)
  | _ => none

/-- The character of an escape after `\u`, given by one code unit or by a surrogate pair. -/
def escapedCode? (cs : List Char) : Option (Char × List Char) := do
  let (unit, rest) ← codeUnit? cs
  if unit < 0xd800 ∨ 0xdfff < unit then
    return (Char.ofNat unit, rest)
  else
    match rest with
    | '\\' :: 'u' :: rest =>
      let (second, rest) ← codeUnit? rest
      if unit < 0xdc00 ∧ 0xdc00 ≤ second ∧ second ≤ 0xdfff then
        return (Char.ofNat (0x10000 + (unit - 0xd800) * 0x400 + (second - 0xdc00)), rest)
      else none
    | _ => none

/-- The character of an escape after the backslash. -/
def escape? : List Char → Option (Char × List Char)
  | 'u' :: rest => escapedCode? rest
  | c :: rest =>
    (([('"', '"'), ('\\', '\\'), ('/', '/'), ('b', '\x08'), ('f', '\x0c'), ('n', '\n'),
      ('r', '\r'), ('t', '\t')] : List (Char × Char)).lookup c).map (·, rest)
  | [] => none

/-- The rest of a string up to its closing quotation mark; `done` holds the characters read so far,
the last one first. -/
def stringRest? : (fuel : Nat) → (done : List Char) → List Char → Option (String × List Char)
  | 0, _, _ => none
  | _ + 1, _, [] => none
  | _ + 1, done, '"' :: rest => some (String.ofList done.reverse, rest)
  | fuel + 1, done, '\\' :: rest =>
    match escape? rest with
    | some (c, rest) => stringRest? fuel (c :: done) rest
    | none => none
  | fuel + 1, done, c :: rest =>
    if c.toNat < 0x20 then none else stringRest? fuel (c :: done) rest

/-- The number of an integer, a double where no 64-bit word holds it and for the negative zero. -/
def Number.ofIntegerText? (negative : Bool) (value : Nat) : Option Number :=
  let signed : Int := if negative then -value else value
  if h : IsWord signed ∧ ¬(negative ∧ value = 0) then some (.integer signed h.1)
  else Number.ofDouble? (Double.ofDecimal negative ⟨value, 0⟩)

/-- Whether a number text without its sign has the form that JSON asks for: no zero in front of
other digits, and a digit after the point. -/
def hasNumberForm (cs : List Char) : Bool :=
  let whole := cs.takeWhile Char.isDigit
  let rest := cs.dropWhile Char.isDigit
  !whole.isEmpty && (whole.length == 1 || whole.head? != some '0') &&
    (rest.head? != some '.' || ((rest.drop 1).head?.map Char.isDigit).getD false)

/-- Reads a number text without its sign. -/
def Number.ofUnsignedText? (negative : Bool) (cs : List Char) : Option Number :=
  if !hasNumberForm cs then none
  else if cs.all Char.isDigit then ofIntegerText? negative (Text.digitsValue cs)
  else
    match Text.readDecimal? cs with
    | some decimal => ofDouble? (Double.ofDecimal negative decimal)
    | none => none

/-- Reads a number text. -/
def Number.ofText? : List Char → Option Number
  | '-' :: rest => ofUnsignedText? true rest
  | cs => ofUnsignedText? false cs

/-- Whether a character can occur in a number text. -/
def isNumberChar (c : Char) : Bool :=
  c.isDigit || c == '-' || c == '+' || c == '.' || c == 'e' || c == 'E'

mutual

/-- Reads a value. -/
def value? : (fuel : Nat) → List Char → Option (Json × List Char)
  | 0, _ => none
  | fuel + 1, cs =>
    match skipSpaces cs with
    | 'n' :: 'u' :: 'l' :: 'l' :: rest => some (null, rest)
    | 't' :: 'r' :: 'u' :: 'e' :: rest => some (bool true, rest)
    | 'f' :: 'a' :: 'l' :: 's' :: 'e' :: rest => some (bool false, rest)
    | '"' :: rest =>
      match stringRest? (rest.length + 1) [] rest with
      | some (s, rest) => some (string s, rest)
      | none => none
    | '[' :: rest =>
      match skipSpaces rest with
      | ']' :: rest => some (array [], rest)
      | rest => items? fuel [] rest
    | '\x7b' :: rest =>
      match skipSpaces rest with
      | '\x7d' :: rest => some (object [], rest)
      | rest => members? fuel [] rest
    | cs =>
      match Number.ofText? (cs.takeWhile isNumberChar) with
      | some n => some (number n, cs.dropWhile isNumberChar)
      | none => none

/-- Reads the items of an array up to its closing bracket; `done` holds those read so far, the last
one first. -/
def items? : (fuel : Nat) → (done : List Json) → List Char → Option (Json × List Char)
  | 0, _, _ => none
  | fuel + 1, done, cs =>
    match value? fuel cs with
    | none => none
    | some (item, rest) =>
      match skipSpaces rest with
      | ',' :: rest => items? fuel (item :: done) rest
      | ']' :: rest => some (array (item :: done).reverse, rest)
      | _ => none

/-- Reads the members of an object up to its closing brace. -/
def members? : (fuel : Nat) → (done : Entries Json) → List Char →
    Option (Json × List Char)
  | 0, _, _ => none
  | fuel + 1, done, cs =>
    match skipSpaces cs with
    | '"' :: rest =>
      match stringRest? (rest.length + 1) [] rest with
      | none => none
      | some (name, rest) =>
        match skipSpaces rest with
        | ':' :: rest =>
          match value? fuel rest with
          | none => none
          | some (value, rest) =>
            match skipSpaces rest with
            | ',' :: rest => members? fuel (Entries.put name value done) rest
            | '\x7d' :: rest => some (object (Entries.put name value done), rest)
            | _ => none
        | _ => none
    | _ => none

end

/-- Reads a text that holds one value and blanks around it. -/
def ofText? (s : String) : Option Json :=
  let cs := s.toList
  match value? (2 * cs.length + 2) cs with
  | some (value, rest) => if (skipSpaces rest).isEmpty then some value else none
  | none => none

end Stockroom.Json
